import NantianGateway.Http.ResponseCache
import NantianGateway.Http.ResponseHeaders

/-!
# From the answer of the upstream to the client and the cache

`response_filter` edits the header and decides whether the response is cached,
`response_body_filter` hands the body on or keeps it, `logging` completes what is cached.  One
buffer serves the cache and the AI gateway.  What `pingora_cache` decides is a parameter
(`CacheLibrary`).
-/

namespace NantianGateway.Http

open Text

/-! ## The library of the cache -/

structure ResponseHeader where
  status : ℕ
  headers : HeaderMap := []
  deriving DecidableEq

/-- The directives that let a shared cache store an authorised response. -/
structure CacheControl where
  «public» : Bool := false
  sMaxAge : Option ℕ := none
  mustRevalidate : Bool := false
  deriving DecidableEq

def CacheControl.AllowsShared (control : CacheControl) : Prop :=
  control.public = true ∨ control.sMaxAge.isSome = true ∨ control.mustRevalidate = true

structure CacheMeta where
  header : ResponseHeader
  created : ℕ
  freshUntil : ℕ
  deriving DecidableEq

/-- `pingora_cache`, as far as it decides: which requests and responses are cacheable, which header
is stored, and how many seconds a response is fresh. -/
structure CacheLibrary where
  requestCacheable : RequestView → Bool
  cacheControl : HeaderMap → Option CacheControl
  storable : Option CacheControl → ResponseHeader → Bool → Option ℕ → Bool
  storedHeader : Option CacheControl → ResponseHeader → ResponseHeader
  lifetime : Option CacheControl → ResponseHeader → Option ℕ → ℕ
  storable_authorized : ∀ control header fresh, storable control header true fresh = true →
    ∃ directives, control = some directives ∧ directives.AllowsShared
  status_storedHeader : ∀ control header, (storedHeader control header).status = header.status

def CacheLibrary.respCacheable (lib : CacheLibrary) (now : ℕ) (control : Option CacheControl)
    (header : ResponseHeader) (hasAuth : Bool) (fresh : Option ℕ) : Option CacheMeta :=
  if lib.storable control header hasAuth fresh then
    some ⟨lib.storedHeader control header, now, now + lib.lifetime control header fresh⟩
  else none

/-- `fresh_duration_for_status`: the configured seconds, for success and for 404. -/
def freshDurationForStatus (defaultTtlSecs status : ℕ) : Option ℕ :=
  if defaultTtlSecs = 0 then none
  else if (200 ≤ status ∧ status < 300) ∨ status = 404 then some defaultTtlSecs
  else none

/-! ## The context -/

structure HttpCache where
  key : CacheKey
  filling : Option CacheMeta := none
  deriving DecidableEq

/-- What the response phase reads and writes of the request context; `C` is the context of the AI
gateway. -/
structure ResponseContext (C : Type) where
  method : String := "GET"
  requestHeaders : Option (BTreeMap (List String)) := none
  selectedBackend : Option SelectedBackend := none
  resolvedSession : Option ResolvedSession := none
  wasmResponseHeaders : BTreeMap String := .empty
  httpCache : Option HttpCache := none
  aiContext : Option C := none
  cachedResponseBody : List (List UInt8) := []
  cachedResponseBodyBytes : ℕ := 0

structure ResponseProxy where
  sessions : SessionManager
  lib : CacheLibrary
  wasmFilter : Option Ai.WasmPluginFilter := none
  aiFilter : Bool := false
  maxEntrySizeBytes : ℕ := 0

/-- What a call of the response filter gets from outside. -/
structure ResponseEnv where
  retryable : Bool := false
  tokenTime : ℕ := 0
  cookieTime : ℕ := 0
  permit : Bool := true
  onResponse : Ai.Invoke := fun _ => .ok (.continue .empty)
  judgedAt : ℕ := 0
  defaultTtlSecs : ℕ := 60
  missHandlerFails : Bool := false
  hashOrder : HashOrder := .asKept

variable {C : Type}

/-! ## The response filter -/

section

variable (proxy : ResponseProxy) (env : ResponseEnv) (ctx : ResponseContext C)

def editForBackend (headers : HeaderMap) : Option HeaderMap :=
  match ctx.selectedBackend with
  | none => some headers
  | some selected => do
      let headers ←
        applyResponseFilters headers selected.filters (some ctx.method) ctx.requestHeaders
      match selected.sessionPersistence with
      | none => some headers
      | some policy =>
        writeResponseSession proxy.sessions env.tokenTime env.cookieTime headers policy selected
          ctx.resolvedSession

def onResponseOutcome : Except Ai.WasmError (BTreeMap String) :=
  match proxy.wasmFilter with
  | none => .ok .empty
  | some filter => (filter.postProcess env.onResponse env.permit).1

/-- The edits by the plugins.  A hook that fails or rejects is passed over. -/
def editForPlugins (headers : HeaderMap) : Option HeaderMap := do
  let headers ← applyPluginHeaders env.hashOrder headers ctx.wasmResponseHeaders
  match onResponseOutcome proxy env with
  | .ok fields => applyPluginHeaders env.hashOrder headers fields
  | .error _ => some headers

def hasAuth : Bool :=
  (ctx.requestHeaders.bind fun headers => headers.get "authorization").isSome

def judgedStatus (status : ℕ) : Bool := status < 500 && (status < 300 || status == 404)

/-- `is_response_cacheable`, of the edited header. -/
def judge (header : ResponseHeader) : Option CacheMeta :=
  proxy.lib.respCacheable env.judgedAt (proxy.lib.cacheControl header.headers) header (hasAuth ctx)
    (freshDurationForStatus env.defaultTtlSecs header.status)

def fillCache (header : ResponseHeader) : Option HttpCache :=
  match ctx.httpCache with
  | none => none
  | some cache =>
    if judgedStatus header.status && !env.missHandlerFails then
      (judge proxy env ctx header).map fun accepted => { cache with filling := some accepted }
    else none

variable (upstream : ResponseHeader)

/-- `response_filter`: the header that is delivered, unless the call ends in an error, and the
context it leaves. -/
def responseFilter (ctx : ResponseContext C) : Option ResponseHeader × ResponseContext C :=
  if env.retryable then (none, ctx)
  else
    match editForBackend proxy env ctx upstream.headers with
    | none => (none, ctx)
    | some headers =>
      match editForPlugins proxy env ctx headers with
      | none => (none, { ctx with wasmResponseHeaders := .empty })
      | some headers =>
        (some ⟨upstream.status, headers⟩, { ctx with
            wasmResponseHeaders := .empty
            httpCache := fillCache proxy env ctx ⟨upstream.status, headers⟩ })

def editedHeader (ctx : ResponseContext C) : Option ResponseHeader :=
  if env.retryable then none
  else
    ((editForBackend proxy env ctx upstream.headers).bind (editForPlugins proxy env ctx)).map
      fun headers => ⟨upstream.status, headers⟩

theorem responseFilter_fst (ctx : ResponseContext C) :
    (responseFilter proxy env upstream ctx).1 = editedHeader proxy env upstream ctx := by
  rw [responseFilter, editedHeader]
  cases env.retryable with
  | true => rfl
  | false =>
    rw [if_neg Bool.false_ne_true, if_neg Bool.false_ne_true]
    cases editForBackend proxy env ctx upstream.headers with
    | none => rfl
    | some headers =>
      dsimp only [Option.bind_some]
      cases editForPlugins proxy env ctx headers with
      | none => rfl
      | some headers => rfl

theorem responseFilter_of_edited {upstream header : ResponseHeader} {ctx : ResponseContext C}
    (h : editedHeader proxy env upstream ctx = some header) :
    responseFilter proxy env upstream ctx = (some header, { ctx with
          wasmResponseHeaders := .empty
          httpCache := fillCache proxy env ctx header }) := by
  rw [← responseFilter_fst] at h
  rw [responseFilter] at h ⊢
  split at h
  · cases h
  · rw [if_neg ‹_›]
    split at h
    · cases h
    · split at h
      · cases h
      · cases h
        rfl

theorem responseFilter_of_not_edited {upstream : ResponseHeader} {ctx : ResponseContext C}
    (h : editedHeader proxy env upstream ctx = none) :
    ∃ fields, responseFilter proxy env upstream ctx
      = (none, { ctx with wasmResponseHeaders := fields }) := by
  rw [editedHeader] at h
  rw [responseFilter]
  cases hretryable : env.retryable with
  | true => exact ⟨ctx.wasmResponseHeaders, rfl⟩
  | false =>
    rw [hretryable, if_neg Bool.false_ne_true] at h
    rw [if_neg Bool.false_ne_true]
    cases hbackend : editForBackend proxy env ctx upstream.headers with
    | none => exact ⟨ctx.wasmResponseHeaders, rfl⟩
    | some headers =>
      rw [hbackend, Option.bind_some, Option.map_eq_none_iff] at h
      dsimp only
      rw [h]
      exact ⟨.empty, rfl⟩

theorem fillCache_eq_some_iff {ctx : ResponseContext C} {header : ResponseHeader}
    {filled : HttpCache} :
    fillCache proxy env ctx header = some filled ↔
      ∃ cache accepted, ctx.httpCache = some cache ∧ judgedStatus header.status = true ∧
        env.missHandlerFails = false ∧ judge proxy env ctx header = some accepted ∧
        filled = { cache with filling := some accepted } := by
  rw [fillCache]
  cases ctx.httpCache with
  | none => simp
  | some cache =>
    dsimp only
    constructor
    · intro h
      split at h
      next hjudged =>
        rw [Bool.and_eq_true, Bool.not_eq_true'] at hjudged
        obtain ⟨accepted, haccepted, rfl⟩ := Option.map_eq_some_iff.mp h
        exact ⟨cache, accepted, rfl, hjudged.1, hjudged.2, haccepted, rfl⟩
      next => cases h
    · rintro ⟨cache', accepted, hcache, hstatus, hfails, haccepted, rfl⟩
      cases hcache
      rw [hstatus, hfails, haccepted]
      rfl

end

/-! ## The body filter -/

def cacheResponseBodyLimitExceeded (currentLen chunkLen limit : ℕ) : Bool :=
  decide (0 < limit ∧ limit < saturatingAdd currentLen chunkLen)

def responseBodyFilterShouldBuffer (cacheActive aiPostProcessActive : Bool) : Bool :=
  cacheActive || aiPostProcessActive

section

variable (proxy : ResponseProxy)

def aiPostProcessActive (ctx : ResponseContext C) : Bool := proxy.aiFilter && ctx.aiContext.isSome

/-- A chunk goes into the buffer; beyond the limit nothing is cached, and the buffer is emptied. -/
def bufferChunk (ctx : ResponseContext C) (chunk : List UInt8) : ResponseContext C :=
  if cacheResponseBodyLimitExceeded ctx.cachedResponseBodyBytes chunk.length
      proxy.maxEntrySizeBytes then
    { ctx with httpCache := none, cachedResponseBody := [], cachedResponseBodyBytes := 0 }
  else
    { ctx with
      cachedResponseBody := ctx.cachedResponseBody ++ [chunk]
      cachedResponseBodyBytes := saturatingAdd ctx.cachedResponseBodyBytes chunk.length }

/-- The first half of the body filter: a chunk is handed on, unless the AI gateway waits for the
whole body. -/
def keepChunk (ctx : ResponseContext C) :
    Option (List UInt8) → Option (List UInt8) × ResponseContext C
  | none => (none, ctx)
  | some chunk =>
    if responseBodyFilterShouldBuffer ctx.httpCache.isSome (aiPostProcessActive proxy ctx) then
      (if aiPostProcessActive proxy ctx then none else some chunk, bufferChunk proxy ctx chunk)
    else (some chunk, ctx)

structure BodyStep (C : Type) where
  body : Option (List UInt8)
  ctx : ResponseContext C
  posted : Option (List UInt8) := none

/-- The second half, at the end of the stream: the buffer is post-processed; if that fails it is
handed on as it is. -/
def postProcessBody (post : C → List UInt8 → Option (List UInt8)) (ctx : ResponseContext C)
    (context : C) : BodyStep C :=
  let responseBody := ctx.cachedResponseBody.flatten
  { body := some ((post context responseBody).getD responseBody)
    ctx := { ctx with aiContext := none, cachedResponseBody := [], cachedResponseBodyBytes := 0 }
    posted := some responseBody }

/-- `response_body_filter`; `post` is `post_process` of the AI filter. -/
def responseBodyFilter (post : C → List UInt8 → Option (List UInt8)) (body : Option (List UInt8))
    (endOfStream : Bool) (ctx : ResponseContext C) : BodyStep C :=
  let kept := keepChunk proxy ctx body
  match if endOfStream && proxy.aiFilter then kept.2.aiContext else none with
  | none => { body := kept.1, ctx := kept.2 }
  | some context => postProcessBody post kept.2 context

end

/-! ## The end of an exchange -/

structure CacheEntry where
  info : CacheMeta
  body : List (List UInt8)
  deriving DecidableEq

/-- What completing an entry gets from outside: the chunk whose writing fails, if one does, and
whether the entry can be finished. -/
structure LoggingEnv where
  writeFailsAt : Option ℕ := none
  finishFails : Bool := false

/-- The part of `logging` that completes an entry.  It does not ask how the exchange ended. -/
def completeCache (env : LoggingEnv) (ctx : ResponseContext C) : Option (CacheKey × CacheEntry) :=
  match ctx.httpCache with
  | none => none
  | some cache =>
    match cache.filling with
    | none => none
    | some accepted =>
      if env.finishFails then none
      else
        some (cache.key, ⟨accepted,
          match env.writeFailsAt with
          | none => ctx.cachedResponseBody
          | some written => ctx.cachedResponseBody.take written⟩)

/-! ## A small proxy -/

def plainLibrary : CacheLibrary where
  requestCacheable _ := true
  cacheControl _ := none
  storable _ _ hasAuth fresh := !hasAuth && fresh.isSome
  storedHeader _ header := header
  lifetime _ _ fresh := fresh.getD 0
  storable_authorized _ _ _ h := by cases h
  status_storedHeader _ _ := rfl

def plainProxy : ResponseProxy where
  sessions := ⟨fun _ _ => [], .ofEncodable SessionToken, []⟩
  lib := plainLibrary

end NantianGateway.Http
