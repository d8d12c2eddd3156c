import NantianGateway.Http.RequestSelection
import NantianGateway.Http.ResponsePhase

/-!
# Responses to authorised requests

That a request was authorised, the response filter reads from the copy of the request's header in
the context.  The copy is made on the gRPC, HTTP route and fallback paths, not on the fast path,
which does look up the cache; and it leaves out every value that is not visible text.
-/

namespace NantianGateway.Http

open Text

variable {C : Type}

/-! ## The context of a forwarded request -/

/-- The route whose cache entry the path looks up.  The gRPC path looks up none, and neither does
an HTTP route without a backend. -/
def lookupRoute (o : Outcomes) (selections : Selections) : Option (String × String) :=
  match selections.fastPath, selections.grpc with
  | some selected, _ => some (selected.routeNamespace, selected.routeName)
  | none, some _ => none
  | none, none => (forwardedState o selections).selectedBackend.map fun selected =>
    (selected.routeNamespace, selected.routeName)

structure Brought (C : Type) where
  view : RequestView := {}
  headers : HeaderMap := []
  sourceIp : Option String := none
  resolvedSession : Option ResolvedSession := none
  wasmResponseHeaders : BTreeMap String := .empty
  aiContext : Option C := none

/-- The context of a request that its path has forwarded.  A lookup that does not answer the
request leaves an entry in the making. -/
def forwardedContext (options : ProxyOptions) (lib : CacheLibrary) (o : Outcomes)
    (selections : Selections) (brought : Brought C) : ResponseContext C where
  method := brought.view.method
  -- `cache_request_headers_if_needed` stands on every path but the fast one
  requestHeaders :=
    if selections.fastPath.isSome then none else some (requestHeaders brought.headers)
  selectedBackend := (forwardedState o selections).selectedBackend
  resolvedSession := brought.resolvedSession
  wasmResponseHeaders := brought.wasmResponseHeaders
  httpCache := (lookupRoute o selections).bind fun route =>
    (cacheLookupKey options lib.requestCacheable
      ⟨route.1, route.2, brought.view, brought.sourceIp⟩).map fun key => { key := key }
  aiContext := brought.aiContext

/-- `upstream_peer` on a context without a backend: the header is copied, if it has not been, and
the backend selected anew is kept. -/
def keepSelection (headers : HeaderMap) (ctx : ResponseContext C)
    (choice : SelectedBackend × Option ResolvedSession) : ResponseContext C :=
  { ctx with
    requestHeaders := ctx.requestHeaders.or (some (requestHeaders headers))
    selectedBackend := some choice.1
    resolvedSession := choice.2 }

def responseContext (options : ProxyOptions) (lib : CacheLibrary) (o : Outcomes)
    (selections : Selections) (brought : Brought C)
    (retries : List (SelectedBackend × Option ResolvedSession)) : ResponseContext C :=
  retries.foldl (keepSelection brought.headers) (forwardedContext options lib o selections brought)

/-! ## What is known of the authorisation -/

def Authorized (headers : HeaderMap) : Prop :=
  ∃ field ∈ headers, asciiLower field.1 = "authorization"

/-- The header of the request has been copied: the path does it, or a retry. -/
def Copied (selections : Selections) (retries : List (SelectedBackend × Option ResolvedSession)) :
    Prop :=
  selections.fastPath = none ∨ retries ≠ []

/-- Some value of the field is visible text. -/
def VisiblyAuthorized (headers : HeaderMap) : Prop :=
  ∃ field ∈ headers, asciiLower field.1 = "authorization" ∧ (toStr field.2).isSome = true

section

variable {options : ProxyOptions} {lib : CacheLibrary} {o : Outcomes} {selections : Selections}
  {brought : Brought C}

theorem requestHeaders_foldl_keepSelection {headers : HeaderMap} {ctx : ResponseContext C}
    (h : ctx.requestHeaders = some (requestHeaders headers))
    (retries : List (SelectedBackend × Option ResolvedSession)) :
    (retries.foldl (keepSelection headers) ctx).requestHeaders = some (requestHeaders headers) := by
  induction retries generalizing ctx with
  | nil => exact h
  | cons choice retries ih =>
    refine ih ?_
    rw [keepSelection, h]
    rfl

variable (retries : List (SelectedBackend × Option ResolvedSession))

theorem requestHeaders_responseContext :
    (Copied selections retries → (responseContext options lib o selections brought
      retries).requestHeaders = some (requestHeaders brought.headers)) ∧
    (¬ Copied selections retries → (responseContext options lib o selections brought
      retries).requestHeaders = none) := by
  rw [responseContext]
  cases hfast : selections.fastPath with
  | none =>
    refine ⟨fun _ => requestHeaders_foldl_keepSelection ?_ retries,
      fun h => absurd (.inl hfast) h⟩
    rw [forwardedContext, hfast]
    rfl
  | some selected =>
    have hnone : (forwardedContext options lib o selections brought).requestHeaders = none := by
      rw [forwardedContext, hfast]
      rfl
    cases retries with
    | nil =>
      refine ⟨fun h => ?_, fun _ => hnone⟩
      rcases h with h | h
      · rw [hfast] at h
        cases h
      · exact absurd rfl h
    | cons choice retries =>
      refine ⟨fun _ => requestHeaders_foldl_keepSelection ?_ retries,
        fun h => absurd (.inr (List.cons_ne_nil choice retries)) h⟩
      rw [keepSelection, hnone]
      rfl

theorem hasAuth_responseContext_iff :
    hasAuth (responseContext options lib o selections brought retries) = true ↔
      Copied selections retries ∧ VisiblyAuthorized brought.headers := by
  have hheaders := @requestHeaders_responseContext C options lib o selections brought retries
  rw [hasAuth]
  by_cases hcopied : Copied selections retries
  · rw [hheaders.1 hcopied, Option.bind_some, isSome_get_requestHeaders_iff]
    exact ⟨fun h => ⟨hcopied, h⟩, fun h => h.2⟩
  · rw [hheaders.2 hcopied]
    exact ⟨fun h => absurd h Bool.false_ne_true, fun h => absurd h.1 hcopied⟩

end

/-! ## What is stored -/

/-- The response filter delivers the header and judges its cacheability. -/
def Judges (proxy : ResponseProxy) (env : ResponseEnv) (upstream : ResponseHeader)
    (ctx : ResponseContext C) (header : ResponseHeader) : Prop :=
  (responseFilter proxy env upstream ctx).1 = some header ∧ ctx.httpCache.isSome = true ∧
    judgedStatus header.status = true

/-- **A response that is judged is judged as authorised, and stored only if it allows that.** -/
def NotShared (proxy : ResponseProxy) (env : ResponseEnv) (upstream : ResponseHeader)
    (ctx : ResponseContext C) : Prop :=
  ∀ header, Judges proxy env upstream ctx header → hasAuth ctx = true ∧
    ∀ cache accepted, (responseFilter proxy env upstream ctx).2.httpCache = some cache →
      cache.filling = some accepted →
        ∃ directives, proxy.lib.cacheControl header.headers = some directives ∧
          directives.AllowsShared

theorem allowsShared_of_hasAuth {proxy : ResponseProxy} {env : ResponseEnv}
    {upstream header : ResponseHeader} {ctx : ResponseContext C} {cache : HttpCache}
    (hauth : hasAuth ctx = true)
    (hdelivered : (responseFilter proxy env upstream ctx).1 = some header)
    (hcache : (responseFilter proxy env upstream ctx).2.httpCache = some cache) :
    ∃ directives, proxy.lib.cacheControl header.headers = some directives ∧
      directives.AllowsShared := by
  rw [responseFilter_fst] at hdelivered
  rw [responseFilter_of_edited proxy env hdelivered] at hcache
  obtain ⟨-, accepted, -, -, -, hjudge, -⟩ := (fillCache_eq_some_iff proxy env).mp hcache
  rw [judge, CacheLibrary.respCacheable, hauth] at hjudge
  split at hjudge
  next hstorable => exact proxy.lib.storable_authorized _ _ _ hstorable
  next => cases hjudge

/-- **When responses to authorised requests are not shared**: exactly if the response is not judged
at all, or the header was copied and a value of its `Authorization` field is visible text. -/
theorem authorized_not_shared_iff (crate : IpNetCrate) (options : ProxyOptions)
    (proxy : ResponseProxy) (o : Outcomes) (selections : Selections) (brought : Brought C)
    (retries : List (SelectedBackend × Option ResolvedSession)) (env : ResponseEnv)
    (upstream : ResponseHeader) :
    (Forwarded crate o selections → Authorized brought.headers → NotShared proxy env upstream
        (responseContext options proxy.lib o selections brought retries)) ↔
    ¬ (Forwarded crate o selections ∧ Authorized brought.headers ∧
        ∃ header, Judges proxy env upstream
          (responseContext options proxy.lib o selections brought retries) header) ∨
      (Copied selections retries ∧ VisiblyAuthorized brought.headers) := by
  rw [← @hasAuth_responseContext_iff C options proxy.lib o selections brought retries]
  generalize responseContext options proxy.lib o selections brought retries = ctx
  constructor
  · intro h
    by_cases hjudged : Forwarded crate o selections ∧ Authorized brought.headers ∧
        ∃ header, Judges proxy env upstream ctx header
    · obtain ⟨hforwarded, hauthorized, header, hheader⟩ := hjudged
      exact .inr (h hforwarded hauthorized header hheader).1
    · exact .inl hjudged
  · rintro (hjudged | hauth) hforwarded hauthorized header hheader
    · exact absurd ⟨hforwarded, hauthorized, header, hheader⟩ hjudged
    · exact ⟨hauth, fun cache accepted hcache _ =>
        allowsShared_of_hasAuth hauth hheader.1 hcache⟩

/-! ## The fast path -/

def webSnapshot : Snapshot :=
  oneRuleSnapshot { «namespace» := "default", name := "app", port := 8080 } "default" "app:8080"

def webSelections (headers : HeaderMap) : Selections :=
  initialSelections inertCrates (webSnapshot.rebuildRuntimeIndexes inertCrates) {}
    { headers := requestHeaders headers, serverPort := 80 } {}

private def aliceHeaders : HeaderMap := [("authorization", valueBytes "Bearer alice")]

private def webContext (headers : HeaderMap) : ResponseContext Empty :=
  responseContext {} plainLibrary {} (webSelections headers) { headers := headers } []

private def webKey : CacheKey := ⟨"default/web", "https://", ""⟩

private def aliceResponse : ResponseHeader := ⟨200, [("x-user", valueBytes "alice")]⟩

/-- **On the fast path the response to an authorised request is stored**, under the key that a
request without the field looks up. -/
theorem fast_path_stores_authorized :
    Forwarded cidrBlocks {} (webSelections aliceHeaders) ∧ Authorized aliceHeaders ∧
    hasAuth (webContext aliceHeaders) = false ∧
    (responseFilter plainProxy {} aliceResponse (webContext aliceHeaders)).2.httpCache
      = some ⟨webKey, some ⟨aliceResponse, 0, 60⟩⟩ ∧
    (webContext []).httpCache = some ⟨webKey, none⟩ ∧
    ¬ (Forwarded cidrBlocks {} (webSelections aliceHeaders) → Authorized aliceHeaders →
      NotShared plainProxy {} aliceResponse (webContext aliceHeaders)) := by
  have hflow : (doRequestFilter cidrBlocks {} (webSelections aliceHeaders) {}).1 = .done false := by
    decide +kernel
  have hforwarded : Forwarded cidrBlocks {} (webSelections aliceHeaders) :=
    ⟨_, Prod.ext hflow rfl, by decide +kernel⟩
  have hauthorized : Authorized aliceHeaders := ⟨_, List.mem_singleton_self _, by decide +kernel⟩
  have hauth : hasAuth (webContext aliceHeaders) = false := by decide +kernel
  refine ⟨hforwarded, hauthorized, hauth, by decide +kernel, by decide +kernel, fun h => ?_⟩
  have hjudged : Judges plainProxy {} aliceResponse (webContext aliceHeaders) aliceResponse :=
    ⟨by decide +kernel, by decide +kernel, by decide +kernel⟩
  rw [(h hforwarded hauthorized aliceResponse hjudged).1] at hauth
  cases hauth

end NantianGateway.Http
