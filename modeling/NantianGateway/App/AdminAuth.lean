import NantianGateway.Http.Headers
import NantianGateway.Observability.ReloadingFile

/-!
# Authentication of the admin interface

`router.rs` puts a bearer-token check in front of fifteen of the eighteen admin routes.
`resolve_bearer_token` says `None` if no token is configured, and also if the load of a configured
file fails; `require_bearer_auth` reads `None` the first way and lets the request through.  `axum`
is taken at its word: a layer runs before its routes, a `get` route answers `GET` and `HEAD`, and a
parameter of a path stands for one segment that is not empty.
-/

namespace NantianGateway.App

open Text Observability Option

/-! ## Routes -/

inductive AdminHandler where
  | livez
  | readyz
  | metricsView
  | summaryView
  | nodeView
  | snapshotView
  | overloadView
  | circuitBreakerView
  | rateLimitView
  | listenersView
  | listenerDetailView
  | listenerStatusesView
  | listenerStatusDetailView
  | routesView
  | routeDetailView
  | backendsView
  | backendDetailView
  | trafficView
  deriving DecidableEq

def publicRoutes : List (String × AdminHandler) :=
  [("/livez", .livez), ("/readyz", .readyz), ("/metrics", .metricsView)]

def protectedRoutes : List (String × AdminHandler) :=
  [("/v1/summary", .summaryView), ("/v1/node", .nodeView), ("/v1/snapshot", .snapshotView),
    ("/v1/overload", .overloadView), ("/v1/circuit-breakers", .circuitBreakerView),
    ("/v1/rate-limits", .rateLimitView), ("/v1/listeners", .listenersView),
    ("/v1/listeners/\x7bname\x7d", .listenerDetailView),
    ("/v1/listener-statuses", .listenerStatusesView),
    ("/v1/listener-statuses/\x7bname\x7d", .listenerStatusDetailView),
    ("/v1/routes", .routesView),
    ("/v1/routes/\x7bkind\x7d/\x7bnamespace\x7d/\x7bname\x7d", .routeDetailView),
    ("/v1/backends", .backendsView),
    ("/v1/backends/\x7bnamespace\x7d/\x7bname\x7d", .backendDetailView),
    ("/v1/traffic", .trafficView)]

/-- A parameter stands for any segment but the empty one. -/
def segmentMatches (pattern segment : List Char) : Bool :=
  if pattern.head? = some '\x7b' then segment ≠ [] else pattern = segment

def pathMatches (pattern path : String) : Bool :=
  let pattern := pattern.toList.splitOn '/'
  let path := path.toList.splitOn '/'
  pattern.length == path.length && (List.zipWith segmentMatches pattern path).all id

def handlerOf (routes : List (String × AdminHandler)) (path : String) : Option AdminHandler :=
  (routes.find? fun route => pathMatches route.1 path).map Prod.snd

/-! ## Requests and replies -/

structure AdminRequest where
  method : String := "GET"
  path : String
  headers : Http.HeaderMap := []

/-- A reply: what a handler says, or a status with its headers and no body. -/
inductive AdminReply where
  | handled (handler : AdminHandler)
  | status (code : ℕ) (headers : List (String × String))
  deriving DecidableEq

def callHandler (handler : AdminHandler) (request : AdminRequest) : AdminReply :=
  if request.method = "GET" ∨ request.method = "HEAD" then .handled handler
  else .status 405 [("allow", "GET,HEAD")]

/-! ## The check -/

structure AdminRuntimeConfig where
  adminBearerToken : Option String := none
  adminBearerTokenFile : Option String := none

inductive TokenError where
  | notUtf8
  | empty

def parseAdminBearerToken (bytes : List UInt8) : Except TokenError String :=
  match String.fromUTF8? bytes.toByteArray with
  | none => .error .notUtf8
  | some raw => if trim raw = "" then .error .empty else .ok (trim raw)

def nonBlank (setting : Option String) : Option String :=
  (setting.map trim).filter fun value => value ≠ ""

variable (config : AdminRuntimeConfig) (views : String → LoadView)

/-- `views` is what a load would see under each path at the time of the request. -/
def resolveBearerToken : Option String :=
  match nonBlank config.adminBearerTokenFile with
  | some path => (load (newLazy path 0 parseAdminBearerToken) (views path)).1.toOption
  | none => nonBlank config.adminBearerToken

def isAuthorized (value expected : String) : Bool :=
  match splitWhitespace value with
  | [scheme, token] => eqIgnoreAsciiCase scheme "Bearer" && token == expected
  | _ => false

def unauthorizedResponse : AdminReply :=
  .status 401 [("www-authenticate", "Bearer realm=\"nantian-dataplane-admin\"")]

variable (request : AdminRequest)

def requireBearerAuth (next : AdminRequest → AdminReply) : AdminReply :=
  match resolveBearerToken config views with
  | none => next request
  | some expected =>
    if ((request.headers.get "authorization").bind Http.toStr).any fun value =>
        isAuthorized value expected
    then next request
    else unauthorizedResponse

def respond : Option AdminReply :=
  match handlerOf publicRoutes request.path with
  | some handler => some (callHandler handler request)
  | none =>
    (handlerOf protectedRoutes request.path).map fun handler =>
      requireBearerAuth config views request (callHandler handler)

/-! ## What closed means -/

/-- The text is the Bearer scheme with this token, up to white space. -/
def BearerCredentials (value token : String) : Prop :=
  ∃ before scheme between after : List Char,
    value.toList = before ++ scheme ++ between ++ token.toList ++ after ∧
    asciiLower (String.ofList scheme) = "bearer" ∧ between ≠ [] ∧
    ∀ c ∈ before ++ between ++ after, isWhiteSpace c = true

/-- The request carries the token in its `Authorization` header. -/
def Presents (token : String) : Prop :=
  ∃ bytes value, request.headers.get "authorization" = some bytes ∧
    Http.toStr bytes = some value ∧ BearerCredentials value token

def Configured : Prop :=
  (∃ path, config.adminBearerTokenFile = some path ∧ trim path ≠ "") ∨
    ∃ token, config.adminBearerToken = some token ∧ trim token ≠ ""

/-- The file is there, can be read, and is a text that is the token up to white space. -/
def Holds (view : LoadView) (token : String) : Prop :=
  ∃ bytes raw, view.contents = .ok bytes ∧ String.fromUTF8? bytes.toByteArray = some raw ∧
    trim raw = token ∧ token ≠ ""

/-- The token that the configuration asks for: that of the file, if there is to be a file. -/
inductive ConfiguredToken (config : AdminRuntimeConfig) (views : String → LoadView) :
    String → Prop where
  | ofFile {path token : String} :
      config.adminBearerTokenFile = some path → trim path ≠ "" → Holds (views (trim path)) token →
        ConfiguredToken config views token
  | ofSetting {setting : String} :
      (∀ path, config.adminBearerTokenFile = some path → trim path = "") →
        config.adminBearerToken = some setting → trim setting ≠ "" →
          ConfiguredToken config views (trim setting)

/-- **The routes are closed**: a request to a protected route reaches a handler only with the
configured token, and every other one is answered 401. -/
def FailsClosed : Prop :=
  ∀ request handler, handlerOf protectedRoutes request.path = some handler →
    (∀ reached, respond config views request = some (.handled reached) →
      ∃ token, ConfiguredToken config views token ∧ Presents request token) ∧
    ((¬ ∃ token, ConfiguredToken config views token ∧ Presents request token) →
      ∃ headers, respond config views request = some (.status 401 headers))

/-! ## The pieces -/

variable {setting : Option String}

theorem nonBlank_eq_some_iff {value : String} :
    nonBlank setting = some value ↔ ∃ raw, setting = some raw ∧ trim raw = value ∧ value ≠ "" := by
  rw [nonBlank, filter_eq_some_iff, map_eq_some_iff, decide_eq_true_eq]
  constructor
  · rintro ⟨⟨raw, hraw, htrim⟩, hvalue⟩
    exact ⟨raw, hraw, htrim, hvalue⟩
  · rintro ⟨raw, hraw, htrim, hvalue⟩
    exact ⟨⟨raw, hraw, htrim⟩, hvalue⟩

theorem nonBlank_eq_none_iff :
    nonBlank setting = none ↔ ∀ raw, setting = some raw → trim raw = "" := by
  rw [eq_none_iff_forall_ne_some]
  constructor
  · intro h raw hraw
    by_contra htrim
    exact h (trim raw) (nonBlank_eq_some_iff.mpr ⟨raw, hraw, rfl, htrim⟩)
  · intro h value hvalue
    obtain ⟨raw, hraw, rfl, hne⟩ := nonBlank_eq_some_iff.mp hvalue
    exact hne (h raw hraw)

variable {token : String} {config : AdminRuntimeConfig} {views : String → LoadView}

theorem parseAdminBearerToken_eq_ok_iff {bytes : List UInt8} :
    parseAdminBearerToken bytes = .ok token ↔
      ∃ raw, String.fromUTF8? bytes.toByteArray = some raw ∧ trim raw = token ∧ token ≠ "" := by
  rw [parseAdminBearerToken]
  cases String.fromUTF8? bytes.toByteArray with
  | none => simp
  | some raw =>
    simp only [Option.some.injEq, exists_eq_left']
    split
    next hnil =>
      refine iff_of_false nofun ?_
      rintro ⟨rfl, hne⟩
      exact hne hnil
    next hne =>
      rw [Except.ok.injEq, iff_self_and]
      rintro rfl
      exact hne

/-- **A configured file**: the load made for a request gives a token exactly if the file holds
it at that moment. -/
theorem load_eq_some_iff {path : String} {view : LoadView} :
    (load (newLazy path 0 parseAdminBearerToken) view).1.toOption = some token ↔
      Holds view token := by
  rw [load_newLazy, readValue, Holds]
  cases hcontents : view.contents with
  | error error =>
    constructor
    · intro h
      cases h
    · rintro ⟨bytes, raw, hbytes, -⟩
      cases hbytes
  | ok bytes =>
    dsimp only
    have hparse := @parseAdminBearerToken_eq_ok_iff token bytes
    constructor
    · intro h
      cases hresult : parseAdminBearerToken bytes with
      | error error =>
        rw [hresult] at h
        cases h
      | ok value =>
        rw [hresult] at h hparse
        cases h
        obtain ⟨raw, hraw, htrim, hne⟩ := hparse.mp rfl
        exact ⟨bytes, raw, rfl, hraw, htrim, hne⟩
    · rintro ⟨bytes', raw, hbytes, hraw, htrim, hne⟩
      cases hbytes
      rw [hparse.mpr ⟨raw, hraw, htrim, hne⟩]
      rfl

theorem resolveBearerToken_eq_some_iff :
    resolveBearerToken config views = some token ↔ ConfiguredToken config views token := by
  rw [resolveBearerToken]
  cases hfile : nonBlank config.adminBearerTokenFile with
  | none =>
    have hblank := nonBlank_eq_none_iff.mp hfile
    rw [nonBlank_eq_some_iff]
    constructor
    · rintro ⟨setting, hsetting, rfl, hne⟩
      exact .ofSetting hblank hsetting hne
    · rintro (⟨hpath, hne, -⟩ | ⟨-, hsetting, hne⟩)
      · exact absurd (hblank _ hpath) hne
      · exact ⟨_, hsetting, rfl, hne⟩
  | some path =>
    obtain ⟨raw, hraw, rfl, hne⟩ := nonBlank_eq_some_iff.mp hfile
    dsimp only
    rw [load_eq_some_iff]
    constructor
    · exact .ofFile hraw hne
    · rintro (⟨hpath, -, hholds⟩ | ⟨hblank, -, -⟩)
      · rw [hraw] at hpath
        cases hpath
        exact hholds
      · exact absurd (hblank raw hraw) hne

theorem isAuthorized_sound {value expected : String} (h : isAuthorized value expected = true) :
    BearerCredentials value expected := by
  rw [isAuthorized] at h
  split at h
  next scheme token hwords =>
    rw [Bool.and_eq_true, beq_iff_eq, eqIgnoreAsciiCase_iff] at h
    obtain ⟨hscheme, rfl⟩ := h
    obtain ⟨before, between, after, htext, hbetween, hwhite⟩ :=
      exists_of_splitWhitespace_eq_pair hwords
    refine ⟨before, scheme.toList, between, after, htext, ?_, hbetween, hwhite⟩
    rw [String.ofList_toList, hscheme]
    decide +kernel
  next => cases h

variable {handler : AdminHandler}

theorem handlerOf_publicRoutes {path : String}
    (h : handlerOf protectedRoutes path = some handler) : handlerOf publicRoutes path = none := by
  have hlength {pattern : String} (hmatch : pathMatches pattern path = true) :
      (pattern.toList.splitOn '/').length = (path.toList.splitOn '/').length := by
    rw [pathMatches, Bool.and_eq_true, beq_iff_eq] at hmatch
    exact hmatch.1
  have hlong : ∀ route ∈ protectedRoutes, 2 < (route.1.toList.splitOn '/').length := by
    decide +kernel
  have hshort : ∀ route ∈ publicRoutes, (route.1.toList.splitOn '/').length = 2 := by
    decide +kernel
  obtain ⟨route, hroute, -⟩ := map_eq_some_iff.mp h
  have hmatches := List.find?_some hroute
  have hpath := hlength hmatches
  have hsegments := hlong route (List.mem_of_find?_eq_some hroute)
  rw [handlerOf, map_eq_none_iff, List.find?_eq_none]
  intro other hother hmatch
  have hpath' := hlength hmatch
  have hsegments' := hshort other hother
  omega

theorem respond_of_protected {request : AdminRequest}
    (h : handlerOf protectedRoutes request.path = some handler) : respond config views request
      = some (requireBearerAuth config views request (callHandler handler)) := by
  rw [respond, handlerOf_publicRoutes h, h]
  rfl

theorem requireBearerAuth_of_some {request : AdminRequest} {next : AdminRequest → AdminReply}
    {expected : String} (h : resolveBearerToken config views = some expected)
    (hrequest : ¬ Presents request expected) :
    requireBearerAuth config views request next = unauthorizedResponse := by
  rw [requireBearerAuth, h]
  refine if_neg fun hany => hrequest ?_
  cases hvalue : (request.headers.get "authorization").bind Http.toStr with
  | none =>
    rw [hvalue] at hany
    cases hany
  | some value =>
    rw [hvalue] at hany
    obtain ⟨bytes, hbytes, hstream⟩ := bind_eq_some_iff.mp hvalue
    exact ⟨bytes, value, hbytes, hstream, isAuthorized_sound hany⟩

/-! ## The result -/

def bareRequest : AdminRequest := { path := "/v1/summary" }

theorem handlerOf_bareRequest : handlerOf protectedRoutes bareRequest.path = some .summaryView := by
  decide +kernel

/-- **When the admin routes are closed**, where authentication is configured: exactly if a
configured file can be read and holds a token. -/
theorem fails_closed_iff (config : AdminRuntimeConfig) (views : String → LoadView) :
    (Configured config → FailsClosed config views) ↔
      ∀ path, nonBlank config.adminBearerTokenFile = some path →
        ∃ token, Holds (views path) token := by
  constructor
  · -- without a token the check lets a request through that carries nothing
    intro h path hpath
    obtain ⟨raw, hraw, rfl, hne⟩ := nonBlank_eq_some_iff.mp hpath
    by_contra hnone
    have hresolve : resolveBearerToken config views = none := by
      rw [eq_none_iff_forall_ne_some]
      intro token htoken
      rcases resolveBearerToken_eq_some_iff.mp htoken with ⟨hpath', -, hholds⟩ | ⟨hblank, -, -⟩
      · rw [hraw] at hpath'
        cases hpath'
        exact hnone ⟨token, hholds⟩
      · exact hne (hblank raw hraw)
    have hopen : respond config views bareRequest = some (.handled .summaryView) := by
      rw [respond_of_protected handlerOf_bareRequest, requireBearerAuth, hresolve]
      rfl
    obtain ⟨token, -, bytes, value, hbytes, -⟩ :=
      (h (.inl ⟨raw, hraw, hne⟩) bareRequest .summaryView handlerOf_bareRequest).1 _ hopen
    cases hbytes
  · intro hfile hconfigured request handler hroute
    -- the token that is resolved
    obtain ⟨token, htoken⟩ : ∃ token, ConfiguredToken config views token := by
      cases hpath : nonBlank config.adminBearerTokenFile with
      | some path =>
        obtain ⟨token, hholds⟩ := hfile path hpath
        obtain ⟨raw, hraw, rfl, hne⟩ := nonBlank_eq_some_iff.mp hpath
        exact ⟨token, .ofFile hraw hne hholds⟩
      | none =>
        have hblank := nonBlank_eq_none_iff.mp hpath
        rcases hconfigured with ⟨path, hraw, hne⟩ | ⟨setting, hsetting, hne⟩
        · exact absurd (hblank path hraw) hne
        · exact ⟨trim setting, .ofSetting hblank hsetting hne⟩
    have hresolve := resolveBearerToken_eq_some_iff.mpr htoken
    have hclosed : (¬ ∃ token, ConfiguredToken config views token ∧ Presents request token) →
        respond config views request = some unauthorizedResponse := by
      intro hnone
      rw [respond_of_protected hroute,
        requireBearerAuth_of_some hresolve fun hpresents => hnone ⟨token, htoken, hpresents⟩]
    refine ⟨fun reached hreached => ?_, fun hnone => ⟨_, hclosed hnone⟩⟩
    by_contra hnone
    rw [hclosed hnone] at hreached
    cases hreached

/-- **A deleted token file opens the admin routes**, although a token is configured beside it. -/
theorem missing_token_file_opens_routes :
    ∃ (config : AdminRuntimeConfig) (views : String → LoadView),
      Configured config ∧ (views "/etc/ntgw/admin-token").contents = .error .missing ∧
      config.adminBearerTokenFile = some "/etc/ntgw/admin-token" ∧
      respond config views bareRequest = some (.handled .summaryView) ∧
      ¬ FailsClosed config views := by
  refine ⟨{ adminBearerToken := some "s3cret",
            adminBearerTokenFile := some "/etc/ntgw/admin-token" },
    fun _ => { contents := .error .missing }, .inr ⟨"s3cret", rfl, by decide +kernel⟩, rfl, rfl,
    ?_, fun h => ?_⟩
  · decide +kernel
  · obtain ⟨token, -, bytes, value, hbytes, -⟩ :=
      (h bareRequest .summaryView handlerOf_bareRequest).1 .summaryView (by decide +kernel)
    cases hbytes

end NantianGateway.App
