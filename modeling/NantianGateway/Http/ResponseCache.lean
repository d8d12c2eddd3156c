import NantianGateway.Ir.Matching

/-!
# The response cache and its keys

The key is built from the route and from the host and path in the request context.  **The context is
filled for the access log and for tracing, not for the cache**: host and path are cleared when
neither is on, and the path is without its query (`cacheKey_eq_iff`).
-/

namespace NantianGateway.Http

open Text

/-- What the capture reads of a request header: the host header or the authority, path, query
and method, the request id and the declared length. -/
structure RequestView where
  rawHost : Option String := none
  path : String := "/"
  query : Option String := none
  method : String := "GET"
  requestId : String := ""
  contentLength : ℕ := 0
  deriving DecidableEq

def normalizeAuthorityHostRef (host : String) : String := normalizeHostRef host

def RequestView.host (view : RequestView) : Option String :=
  view.rawHost.map normalizeAuthorityHostRef

structure RequestContext where
  clientIp : String := ""
  host : String := ""
  path : String := ""
  requestId : String := ""
  method : String := ""
  bytesReceived : ℕ := 0
  declaredRequestBodyBytes : ℕ := 0
  deriving DecidableEq

def captureRequestContextFromViewForLimits (ctx : RequestContext) (request : RequestView)
    (sourceIp : Option String) (captureObservabilityFields captureDeclaredRequestBodyBytes : Bool) :
    RequestContext :=
  { ctx with
    clientIp := if captureObservabilityFields then sourceIp.getD "-" else ""
    host := if captureObservabilityFields then request.host.getD "-" else ""
    path := if captureObservabilityFields then request.path else ""
    requestId := if captureObservabilityFields then request.requestId else ""
    method := request.method
    bytesReceived := 0
    declaredRequestBodyBytes :=
      if captureDeclaredRequestBodyBytes then request.contentLength else 0 }

structure ProxyOptions where
  accessLogEnabled : Bool := false
  requestTracingEnabled : Bool := false
  cacheEnabled : Bool := true
  maxRequestBodyBytes : ℕ := 0
  deriving DecidableEq

variable (proxy : ProxyOptions)

def ProxyOptions.observes : Bool :=
  proxy.accessLogEnabled || proxy.requestTracingEnabled

/-- The context `prepare_initial_request_state` leaves behind; the client address is captured
for observed requests only. -/
def initialRequestContext (request : RequestView) (sourceIp : Option String) : RequestContext :=
  captureRequestContextFromViewForLimits {} request (if proxy.observes then sourceIp else none)
    proxy.observes (decide (0 < proxy.maxRequestBodyBytes))

structure CacheKey where
  «namespace» : String
  primary : String
  userTag : String := ""
  deriving DecidableEq

def generateKey (routeNamespace routeName host path : String) : CacheKey where
  «namespace» := routeNamespace ++ "/" ++ routeName
  primary := "https://" ++ host ++ path

def cacheLookupMethodAllowed (method : String) : Bool :=
  eqIgnoreAsciiCase method "GET" || eqIgnoreAsciiCase method "HEAD"

structure CacheRequest where
  routeNamespace : String
  routeName : String
  view : RequestView := {}
  sourceIp : Option String := none
  deriving DecidableEq

def cacheKey (request : CacheRequest) : CacheKey :=
  generateKey request.routeNamespace request.routeName
    (initialRequestContext proxy request.view request.sourceIp).host
    (initialRequestContext proxy request.view request.sourceIp).path

/-- The key `try_cache_hit` looks up, if it looks one up; `cacheable` is the test of the
cache library. -/
def cacheLookupKey (cacheable : RequestView → Bool) (request : CacheRequest) : Option CacheKey :=
  if !proxy.cacheEnabled then none
  else if !cacheLookupMethodAllowed
      (initialRequestContext proxy request.view request.sourceIp).method then none
  else if !cacheable request.view then none
  else some (cacheKey proxy request)

/-! ## The store -/

inductive CacheAction where
  | request (request : CacheRequest) (storable : Bool)
  | evict (key : CacheKey)
  deriving DecidableEq

/-- The store, by the requests whose responses it holds, and the hits so far: the request
answered, after the request whose response it got. -/
structure CacheTrace where
  store : List (CacheKey × CacheRequest) := []
  served : List (CacheRequest × CacheRequest) := []
  deriving DecidableEq

section

variable (proxy : ProxyOptions) (cacheable : RequestView → Bool)

def CacheTrace.step (trace : CacheTrace) : CacheAction → CacheTrace
  | .request request storable =>
    match cacheLookupKey proxy cacheable request with
    | none => trace
    | some key =>
      match trace.store.find? (·.1 = key) with
      | some entry => { trace with served := (entry.2, request) :: trace.served }
      | none => if storable then { trace with store := (key, request) :: trace.store } else trace
  | .evict key => { trace with store := trace.store.filter (·.1 ≠ key) }

variable (actions : List CacheAction)

def cacheRun : CacheTrace :=
  actions.foldl (CacheTrace.step proxy cacheable) {}

/-- The invariant of the store: an entry stands under the key of its request, and so does
every request that was served one. -/
def CacheTrace.Inv (trace : CacheTrace) : Prop :=
  (∀ entry ∈ trace.store, entry.1 = cacheKey proxy entry.2) ∧
    ∀ hit ∈ trace.served, cacheKey proxy hit.1 = cacheKey proxy hit.2

variable {proxy cacheable}

theorem cacheLookupKey_eq_some {request : CacheRequest} {key : CacheKey}
    (h : cacheLookupKey proxy cacheable request = some key) : key = cacheKey proxy request := by
  rw [cacheLookupKey] at h
  split_ifs at h
  exact (Option.some.inj h).symm

theorem CacheTrace.Inv.step {trace : CacheTrace} (hinv : trace.Inv proxy) (action : CacheAction) :
    (trace.step proxy cacheable action).Inv proxy := by
  cases action with
  | evict key => exact ⟨fun entry hentry => hinv.1 entry (List.mem_of_mem_filter hentry), hinv.2⟩
  | request request storable =>
    rw [CacheTrace.step]
    split
    · exact hinv
    · rename_i key hkey
      obtain rfl := cacheLookupKey_eq_some hkey
      split
      · rename_i entry hfound
        refine ⟨hinv.1, fun hit hhit => ?_⟩
        rcases List.mem_cons.mp hhit with rfl | hhit
        · have hkeys := List.find?_some hfound
          rw [← hinv.1 entry (List.mem_of_find?_eq_some hfound)]
          exact of_decide_eq_true hkeys
        · exact hinv.2 hit hhit
      · split_ifs
        · refine ⟨fun entry hentry => ?_, hinv.2⟩
          rcases List.mem_cons.mp hentry with rfl | hentry
          · rfl
          · exact hinv.1 entry hentry
        · exact hinv

theorem served_key : ∀ hit ∈ (cacheRun proxy cacheable actions).served,
      cacheKey proxy hit.1 = cacheKey proxy hit.2 := by
  have hrun : ∀ (actions : List CacheAction) (trace : CacheTrace), trace.Inv proxy →
      (actions.foldl (CacheTrace.step proxy cacheable) trace).Inv proxy := by
    intro actions
    induction actions with
    | nil => exact fun trace hinv => hinv
    | cons action actions ih => exact fun trace hinv => ih _ (hinv.step action)
  exact (hrun actions {} ⟨fun entry h => absurd h List.not_mem_nil,
    fun hit h => absurd h List.not_mem_nil⟩).2

end

/-! ## What a key says -/

/-- Two requests ask for the same thing of the same route. -/
def SameTarget (r r' : CacheRequest) : Prop :=
  r.routeNamespace = r'.routeNamespace ∧ r.routeName = r'.routeName ∧
    r.view.host = r'.view.host ∧ r.view.path = r'.view.path ∧ r.view.query = r'.view.query

instance (r r' : CacheRequest) : Decidable (SameTarget r r') :=
  inferInstanceAs (Decidable (_ ∧ _))

def CacheRequest.routeText (r : CacheRequest) : String := r.routeNamespace ++ "/" ++ r.routeName

def CacheRequest.targetText (r : CacheRequest) : String := r.view.host.getD "-" ++ r.view.path

theorem cacheKey_eq_iff (proxy : ProxyOptions) (r r' : CacheRequest) :
    cacheKey proxy r = cacheKey proxy r' ↔
      r.routeText = r'.routeText ∧ (proxy.observes = true → r.targetText = r'.targetText) := by
  have hprimary : ∀ a b c d : String, "https://" ++ a ++ b = "https://" ++ c ++ d ↔
      a ++ b = c ++ d := by
    intro a b c d
    rw [← String.toList_inj, ← String.toList_inj]
    simp only [String.toList_append, List.append_assoc, List.append_cancel_left_eq]
  rw [cacheKey, cacheKey, generateKey, generateKey, CacheKey.mk.injEq, hprimary]
  cases hobserves : proxy.observes with
  | true =>
    simp only [initialRequestContext, captureRequestContextFromViewForLimits, hobserves, if_true,
      and_true, forall_const, CacheRequest.routeText, CacheRequest.targetText]
  | false =>
    simp [initialRequestContext, captureRequestContextFromViewForLimits, hobserves,
      CacheRequest.routeText]

/-- Names without a slash, a host without a slash, a path that begins with one. -/
structure CacheRequest.WellFormed (r : CacheRequest) : Prop where
  routeNamespace : '/' ∉ r.routeNamespace.toList
  host : ∃ host, r.view.host = some host ∧ '/' ∉ host.toList
  path : ∃ rest, r.view.path.toList = '/' :: rest

theorem eq_of_append_slash {a b c d : List Char} (ha : '/' ∉ a) (hc : '/' ∉ c)
    (h : a ++ '/' :: b = c ++ '/' :: d) : a = c ∧ b = d := by
  have hcut : cutFirst '/' (a ++ '/' :: b) = some (a, b) := cutFirst_eq_some_iff.mpr ⟨rfl, ha⟩
  have hcut' : cutFirst '/' (c ++ '/' :: d) = some (c, d) := cutFirst_eq_some_iff.mpr ⟨rfl, hc⟩
  rw [h, hcut'] at hcut
  obtain ⟨rfl, rfl⟩ := Prod.mk.inj (Option.some.inj hcut)
  exact ⟨rfl, rfl⟩

theorem routeText_eq_iff {r r' : CacheRequest} (hr : r.WellFormed) (hr' : r'.WellFormed) :
    r.routeText = r'.routeText ↔
      r.routeNamespace = r'.routeNamespace ∧ r.routeName = r'.routeName := by
  constructor
  · intro h
    have htext : r.routeNamespace.toList ++ '/' :: r.routeName.toList
        = r'.routeNamespace.toList ++ '/' :: r'.routeName.toList := by
      simpa [CacheRequest.routeText, String.toList_append] using congrArg String.toList h
    obtain ⟨hnamespace, hname⟩ := eq_of_append_slash hr.routeNamespace hr'.routeNamespace htext
    exact ⟨String.toList_inj.mp hnamespace, String.toList_inj.mp hname⟩
  · rintro ⟨hnamespace, hname⟩
    rw [CacheRequest.routeText, CacheRequest.routeText, hnamespace, hname]

theorem targetText_eq_iff {r r' : CacheRequest} (hr : r.WellFormed) (hr' : r'.WellFormed) :
    r.targetText = r'.targetText ↔ r.view.host = r'.view.host ∧ r.view.path = r'.view.path := by
  constructor
  · intro h
    obtain ⟨host, hhost, hslash⟩ := hr.host
    obtain ⟨host', hhost', hslash'⟩ := hr'.host
    obtain ⟨rest, hpath⟩ := hr.path
    obtain ⟨rest', hpath'⟩ := hr'.path
    have htext : host.toList ++ '/' :: rest = host'.toList ++ '/' :: rest' := by
      have hlists := congrArg String.toList h
      rw [CacheRequest.targetText, CacheRequest.targetText, hhost, hhost', Option.getD_some,
        Option.getD_some, String.toList_append, String.toList_append, hpath, hpath'] at hlists
      exact hlists
    obtain ⟨hh, hp⟩ := eq_of_append_slash hslash hslash' htext
    refine ⟨?_, ?_⟩
    · rw [hhost, hhost', String.toList_inj.mp hh]
    · rw [← String.toList_inj, hpath, hpath', hp]
  · rintro ⟨hhost, hpath⟩
    rw [CacheRequest.targetText, CacheRequest.targetText, hhost, hpath]

/-- **Separation of cached responses.** Two requests are kept apart by their keys if and only if the
texts of their routes differ, or they ask for the same thing, or they are observed and the texts of
host and path differ. A response is served only to requests with the key of the request it was
stored for. -/
theorem cache_separation_iff (proxy : ProxyOptions) (cacheable : RequestView → Bool) :
    (∀ r r', (cacheKey proxy r = cacheKey proxy r' → SameTarget r r') ↔
      r.routeText ≠ r'.routeText ∨ SameTarget r r' ∨
        (proxy.observes = true ∧ r.targetText ≠ r'.targetText)) ∧
    (∀ r r', r.WellFormed → r'.WellFormed → (cacheKey proxy r = cacheKey proxy r' ↔
      (r.routeNamespace = r'.routeNamespace ∧ r.routeName = r'.routeName) ∧
        (proxy.observes = true → r.view.host = r'.view.host ∧ r.view.path = r'.view.path))) ∧
    ∀ actions, ∀ hit ∈ (cacheRun proxy cacheable actions).served,
      cacheKey proxy hit.1 = cacheKey proxy hit.2 := by
  refine ⟨fun r r' => ?_, fun r r' hr hr' => ?_, served_key⟩
  · rw [cacheKey_eq_iff]
    constructor
    · intro h
      by_cases hroute : r.routeText = r'.routeText
      · by_cases htarget : proxy.observes = true → r.targetText = r'.targetText
        · exact .inr (.inl (h ⟨hroute, htarget⟩))
        · exact .inr (.inr (Classical.not_imp.mp htarget))
      · exact .inl hroute
    · rintro (hroute | hsame | ⟨hobserves, htarget⟩) ⟨hroute', htarget'⟩
      · exact absurd hroute' hroute
      · exact hsame
      · exact absurd (htarget' hobserves) htarget
  · rw [cacheKey_eq_iff, routeText_eq_iff hr hr', targetText_eq_iff hr hr']

def webRequest (host path : String) (query : Option String) : CacheRequest where
  routeNamespace := "default"
  routeName := "web"
  view := { rawHost := some host, path := path, query := query }

/-- **Unobserved, any request of the route gets the response of any other; observed, a
request gets the response of one with another query.** -/
theorem cache_serves_other_requests : (cacheRun {} (fun _ => true)
      [.request (webRequest "a.example" "/account" none) true,
        .request (webRequest "b.example" "/public" none) true]).served
      = [(webRequest "a.example" "/account" none, webRequest "b.example" "/public" none)] ∧
    (cacheRun { accessLogEnabled := true } (fun _ => true)
      [.request (webRequest "a.example" "/search" (some "q=1")) true,
        .request (webRequest "a.example" "/search" (some "q=2")) true]).served
      = [(webRequest "a.example" "/search" (some "q=1"),
          webRequest "a.example" "/search" (some "q=2"))] ∧
    ¬ SameTarget (webRequest "a.example" "/account" none) (webRequest "b.example" "/public" none) ∧
    ¬ SameTarget (webRequest "a.example" "/search" (some "q=1"))
      (webRequest "a.example" "/search" (some "q=2")) := by
  decide +kernel

end NantianGateway.Http
