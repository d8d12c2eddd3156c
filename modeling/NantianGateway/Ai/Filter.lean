import NantianGateway.Ai.SemanticCache
import NantianGateway.Ai.Stages
import NantianGateway.Ai.Tenants
import NantianGateway.Ai.TokenLimits
import NantianGateway.Lib.Fallible

/-!
# The AI gateway filter

`AIGatewayFilter` wraps an upstream call.  Parsing and rewriting only read the filter (`prepare`);
the limiter, the quotas and the cache are changed on the way, also by a request that is refused in
the end.  Clocks, random draws and the verdicts of plugins are arguments; metrics, traces and costs
are left out.
-/

namespace NantianGateway.Ai

variable {Json : Type}

structure WasmPluginFilter where
  onRequestPluginNames : List String
  onResponsePluginNames : List String

structure AIGatewayFilter (Json : Type) where
  adapters : AdapterRegistry Json
  rateLimiter : Option TokenRateLimiter := none
  piiMasker : Option PIIMasker := none
  promptGuard : Option PromptGuardFilter := none
  contentSafety : Option ContentSafetyFilter := none
  fallback : Option ModelFallback := none
  modelRouter : Option ModelRouter := none
  promptInjector : Option PromptInjector := none
  promptTemplateName : Option String := none
  tenantManager : Option TenantManager := none
  abEngine : Option ABTestEngine := none
  abExperimentId : Option String := none
  wasmFilter : Option WasmPluginFilter := none
  semanticCache : Option (SemanticCache Json) := none

/-- What is kept between `pre_process` and `post_process`. -/
structure AIContext (Json : Type) where
  format : String
  request : AIRequest Json
  rawRequest : List UInt8
  cacheKey : Option String
  rateLimitKey : Option String
  complexity : Option Complexity
  deriving DecidableEq

abbrev FilterM (Json : Type) := EStateM (AIError Json) (AIGatewayFilter Json)

/-- What `pre_process` gets from outside: draws, the verdict of the plugins, and the times at which
it reads the clock. -/
structure PreEnv where
  routeRoll : ℕ := 0
  variantRoll : Float := 0
  onRequest : List (String × String) → List UInt8 → Except String Unit := fun _ _ => .ok ()
  checkTime : Instant := 0
  recheckTime : Instant := 0
  quotaTime : Instant := 0
  lookupTime : Instant := 0
  expiryTime : Instant := 0

/-- What `post_process` gets from outside; `firstEntry` is the entry that a full cache evicts. -/
structure PostEnv where
  onResponse : List UInt8 → Except String Unit := fun _ => .ok ()
  storeTime : Instant := 0
  firstEntry : ℕ := 0
  recordTime : Instant := 0

/-! ## Masking -/

def textBytes (text : String) : List UInt8 := text.toList.flatMap String.utf8EncodeChar

/-- `std::str::from_utf8(..).unwrap_or("")`. -/
def textOrEmpty (bytes : List UInt8) : String := (String.fromUTF8? bytes.toByteArray).getD ""

theorem isSome_mask (rx : RegexCrate) (masker : PIIMasker) (text : String) :
    (masker.mask rx text).isSome = true := by
  obtain ⟨out, -, hmask, -⟩ := mask_eq rx masker text
  rw [hmask]
  rfl

def masked (rx : RegexCrate) (masker : PIIMasker) (text : String) : String × ℕ :=
  let out := (masker.mask rx text).get (isSome_mask rx masker text)
  (out.1, out.2.1)

def prepareRequestBody (rx : RegexCrate) (piiMasker : Option PIIMasker) (body : List UInt8) :
    List UInt8 :=
  match piiMasker with
  | none => body
  | some masker =>
    let text := textOrEmpty body
    let out := masked rx masker text
    if out.2 = 0 ∧ (textBytes text).length = body.length then body else textBytes out.1

/-! ## Before the upstream -/

def rateLimitKey (scope : String) (apiKey : Option String) (model path user : String) : String :=
  match scope with
  | "apiKey" => apiKey.getD "unknown"
  | "model" => model
  | "user" => if user ≠ "" then user else path
  | _ => path

def AIGatewayFilter.scopedRateLimitKey (filter : AIGatewayFilter Json) (path : String)
    (apiKey : Option String) (request : AIRequest Json) : Option String :=
  filter.rateLimiter.map fun limiter =>
    rateLimitKey limiter.config.scope apiKey request.model path (request.user.getD "")

def AIGatewayFilter.findAdapter (filter : AIGatewayFilter Json) (format : String) :
    Except (AIError Json) (FormatAdapter Json) :=
  match filter.adapters format with
  | some adapter => .ok adapter
  | none => .error (.adapterNotFound format)

theorem adapters_of_findAdapter {filter : AIGatewayFilter Json} {format : String}
    {adapter : FormatAdapter Json} (h : filter.findAdapter format = .ok adapter) :
    filter.adapters format = some adapter := by
  unfold AIGatewayFilter.findAdapter at h
  split at h
  · rename_i found hfound
    rw [hfound, Except.ok.inj h]
  · exact absurd h (by simp)

/-- A request that is parsed and rewritten. -/
structure Prepared (Json : Type) where
  format : String
  request : AIRequest Json
  rawRequest : List UInt8
  complexity : Option Complexity

variable (cr : AiCrates Json) (env : PreEnv)

def runOnRequest (wasmFilter : Option WasmPluginFilter) (apiKey : Option String)
    (request : AIRequest Json) (body : List UInt8) : Except (AIError Json) Unit :=
  match wasmFilter with
  | some plugins =>
    if plugins.onRequestPluginNames.isEmpty then .ok ()
    else
      let headers := (apiKey.map fun key => ("x-api-key", key)).toList
        ++ [("x-request-model", request.model)]
      match env.onRequest headers body with
      | .ok _ => .ok ()
      | .error message => .error (.internal ("wasm plugin rejected: " ++ message))
  | none => .ok ()

/-- Parse the body and rewrite the request.  The model is final after this, until a fallback. -/
def prepare (filter : AIGatewayFilter Json) (env : PreEnv) (path : String) (body : List UInt8)
    (apiKey : Option String) : Except (AIError Json) (Prepared Json) := do
  let format ← match detectFormat path with
    | some format => .ok format
    | none => .error (.unsupportedFormat path)
  let maskedBody := prepareRequestBody cr.regex filter.piiMasker body
  let adapter ← filter.findAdapter format
  let request ← adapter.parseRequest maskedBody
  runOnRequest env filter.wasmFilter apiKey request maskedBody
  let routed := routeModel filter.modelRouter env.routeRoll request
  let request := overrideModel filter.abEngine filter.abExperimentId env.variantRoll routed.1
  let request := match filter.promptInjector with
    | some injector => injector.inject (filter.promptTemplateName.getD "default") request
    | none => request
  scanSecurity cr filter.promptGuard filter.contentSafety request
  return ⟨format, request, maskedBody, routed.2⟩

/-- The rate limit.  A limited request may wait and ask once more, or go on with a warning. -/
def limitRequest (path : String) (apiKey : Option String)
    (request : AIRequest Json) : FilterM Json (Option String) := fun filter =>
  match filter.rateLimiter with
  | none => .ok none filter
  | some limiter =>
    let key := rateLimitKey limiter.config.scope apiKey request.model path (request.user.getD "")
    let answer := limiter.check env.checkTime key
    let filter := { filter with rateLimiter := some answer.2 }
    match answer.1 with
    | .allowed _ => .ok (some key) filter
    | .limited retryAfterSecs =>
      if limiter.config.onLimit = "queue" then
        let again := answer.2.check env.recheckTime key
        let filter := { filter with rateLimiter := some again.2 }
        match again.1 with
        | .allowed _ => .ok (some key) filter
        | .limited _ => .error (.rateLimitExceeded retryAfterSecs) filter
      else if limiter.config.onLimit = "warn" then .ok (some key) filter
      else .error (.rateLimitExceeded retryAfterSecs) filter

theorem meets_limitRequest {P : AIGatewayFilter Json → Prop}
    (hP : ∀ filter limiter, P filter → P { filter with rateLimiter := limiter }) (env : PreEnv)
    (path : String) (apiKey : Option String) (request : AIRequest Json) :
    Fallible.Meets P (limitRequest env path apiKey request) (fun _ filter => P filter)
      (fun e filter => P filter ∧ ∃ retryAfterSecs, e = .rateLimitExceeded retryAfterSecs) := by
  intro filter h
  unfold limitRequest
  split
  · exact h
  · dsimp only
    split
    · exact hP _ _ h
    · split
      · split
        · exact hP _ _ h
        · exact ⟨hP _ _ h, _, rfl⟩
      · split
        · exact hP _ _ h
        · exact ⟨hP _ _ h, _, rfl⟩

/-- The tenant of the key.  Nothing is checked without a key, or without a manager. -/
def checkTenant (apiKey : Option String) (request : AIRequest Json) :
    FilterM Json Unit := fun filter =>
  match apiKey, filter.tenantManager with
  | some key, some manager =>
    match manager.resolve key with
    | none => .error (.tenantDenied "unknown api key") filter
    | some tenant =>
      let estimatedTokens := (request.maxTokens.getD 1).toNat
      let quota := manager.checkQuota env.quotaTime tenant.tenantId estimatedTokens
      let filter := { filter with tenantManager := some quota.2 }
      if quota.1 = false then .error (.tenantDenied "quota exceeded") filter
      else if quota.2.checkModelAccess tenant.tenantId request.model = false then
        .error (.tenantDenied "model not allowed") filter
      else .ok () filter
  | _, _ => .ok () filter

/-- A response that is found ends the request: it is returned as an error. -/
def lookupCache (request : AIRequest Json) : FilterM Json (Option String) :=
  fun filter =>
    match filter.semanticCache with
    | none => .ok none filter
    | some cache =>
      let key := buildCacheKey cr.json cr.finish request
      let answer := cache.lookupKey env.lookupTime env.expiryTime key
      let filter := { filter with semanticCache := some answer.2 }
      match answer.1 with
      | some response => .error (.cacheHit response) filter
      | none => .ok (some key) filter

def preProcess (path : String) (body : List UInt8) (apiKey : Option String) :
    FilterM Json (AIContext Json) := do
  let prepared ← Fallible.lift (prepare cr (← get) env path body apiKey)
  let rateLimitKey ← limitRequest env path apiKey prepared.request
  checkTenant env apiKey prepared.request
  let cacheKey ← lookupCache cr env prepared.request
  return ⟨prepared.format, prepared.request, prepared.rawRequest, cacheKey, rateLimitKey,
    prepared.complexity⟩

/-! ## After the upstream -/

/-- `TokenCounter`: what the chunks of a stream report, added up. -/
def accumulatedUsage (chunks : List AIStreamChunk) : AIUsage :=
  chunks.foldl (fun total chunk =>
    match chunk.usage with
    | some usage =>
      ⟨total.promptTokens + usage.promptTokens, total.completionTokens + usage.completionTokens,
        total.totalTokens + usage.totalTokens⟩
    | none => total) ⟨0, 0, 0⟩

variable (env : PostEnv)

def runOnResponse (wasmFilter : Option WasmPluginFilter) (body : List UInt8) :
    Except (AIError Json) Unit :=
  match wasmFilter with
  | some plugins =>
    if plugins.onResponsePluginNames.isEmpty then .ok ()
    else
      match env.onResponse body with
      | .ok _ => .ok ()
      | .error message => .error (.internal ("wasm plugin response rejected: " ++ message))
  | none => .ok ()

variable (adapter : FormatAdapter Json)

def reformatStream (body : List UInt8) : Except (AIError Json) (AIUsage × List UInt8) := do
  let chunks ← adapter.parseStreamBody body
  let written ← chunks.mapM adapter.serializeStreamChunk
  return (accumulatedUsage chunks, written.flatMap textBytes)

/-- The response is stored under the key of the context, whatever its status. -/
def storeResponse (cacheKey : Option String) (response : AIResponse Json) :
    FilterM Json Unit := fun filter =>
  match filter.semanticCache, cacheKey with
  | some cache, some key =>
    .ok () { filter with
      semanticCache := some (cache.store env.storeTime env.firstEntry key response) }
  | _, _ => .ok () filter

def recordUsage (env : PostEnv) (rateLimitKey : Option String) (usage : Option AIUsage) :
    FilterM Json Unit := fun filter =>
  match filter.rateLimiter, rateLimitKey with
  | some limiter, some key =>
    let totalTokens := (usage.map AIUsage.totalTokens).getD 0
    .ok () { filter with
      rateLimiter := some (limiter.recordUsage env.recordTime key totalTokens.toNat).2 }
  | _, _ => .ok () filter

def maskResponse (rx : RegexCrate) (piiMasker : Option PIIMasker) (body : List UInt8) :
    List UInt8 :=
  match piiMasker with
  | none => body
  | some masker => textBytes (masked rx masker (textOrEmpty body)).1

def reformatResponse (ctx : AIContext Json)
    (body : List UInt8) : FilterM Json (Option AIUsage × List UInt8) := do
  let response ← Fallible.lift (adapter.parseResponse body)
  storeResponse env ctx.cacheKey response
  let serialized ← Fallible.lift (adapter.serializeResponse response)
  return (response.usage, serialized)

def reformat (ctx : AIContext Json)
    (body : List UInt8) : FilterM Json (Option AIUsage × List UInt8) :=
  if ctx.request.stream then
    Fallible.lift ((reformatStream adapter body).map fun out => (some out.1, out.2))
  else reformatResponse env adapter ctx body

/-- The status of the answer is only counted, so it is not an argument here. -/
def postProcess (ctx : AIContext Json) (body : List UInt8) : FilterM Json (List UInt8) := do
  let filter ← get
  let adapter ← Fallible.lift (filter.findAdapter ctx.format)
  Fallible.lift (runOnResponse env filter.wasmFilter body)
  let out ← reformat env adapter ctx body
  recordUsage env ctx.rateLimitKey out.1
  return maskResponse cr.regex filter.piiMasker out.2

end NantianGateway.Ai
