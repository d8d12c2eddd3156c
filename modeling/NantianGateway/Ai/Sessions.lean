import NantianGateway.Ai.Filter

/-!
# Calls with fallback

`process_with_fallback` waits for the upstream in every turn of its loop, and other calls go on
meanwhile.  So a call is a session that is left off at the upstream (`Session`), and continued by
`settleCall` and `retryCall`.
-/

namespace NantianGateway.Ai

variable {Json : Type} (cr : AiCrates Json)

/-! ## One call -/

/-- A call of `process_with_fallback` that waits for the upstream. -/
structure Session (Json : Type) where
  path : String
  body : List UInt8
  apiKey : Option String
  ctx : AIContext Json
  originalModel : String
  attempt : ℕ := 0

def shouldAttemptFallback (status : ℕ) : Bool := 500 ≤ status || status = 429

/-- The answer of the upstream ends the call, or names the next model to try. -/
def settleCall (env : PostEnv) (session : Session Json) (body : List UInt8) (status : ℕ) :
    FilterM Json (List UInt8 ⊕ String) := do
  let result ← Fallible.attempt (postProcess cr env session.ctx body)
  if result.toBool || !shouldAttemptFallback status then
    return .inl (← Fallible.lift result)
  else
    let isTimeout := status = 504 || status = 408
    match (← get).fallback.bind fun fallback =>
        fallback.resolveFallback session.originalModel (some status) isTimeout session.attempt with
    | some nextModel => return .inr nextModel
    | none =>
      throw (.fallbackExhausted session.originalModel
        ("all fallbacks exhausted after " ++ toString session.attempt
          ++ " attempt(s), last status=" ++ toString status))

def retryCall (env : PreEnv) (session : Session Json) (nextModel : String) :
    FilterM Json (Session Json) := do
  let ctx ← preProcess cr env session.path session.body session.apiKey
  let request := { ctx.request with model := nextModel }
  let rateLimitKey := (← get).scopedRateLimitKey session.path session.apiKey request
  return { session with
    ctx := { ctx with request := request, rateLimitKey := rateLimitKey }
    attempt := session.attempt + 1 }

/-! ## Histories -/

inductive LogEntry (Json : Type) where
  | called (apiKey : Option String) (attempt : ℕ) (ctx : AIContext Json)
  | answered (attempt : ℕ) (ctx : AIContext Json) (body : List UInt8) (status : ℕ)
  | hit (request : AIRequest Json) (response : AIResponse Json)
  deriving DecidableEq

structure Gateway (Json : Type) where
  filter : AIGatewayFilter Json
  sessions : Table ℕ (Session Json) := Table.empty
  log : List (LogEntry Json) := []

inductive GatewayEvent (Json : Type) where
  /-- A request arrives.  It is a call of `process_with_fallback` if it has a number, and otherwise
one of `pre_process` alone. -/
  | start (id : Option ℕ) (env : PreEnv) (path : String) (body : List UInt8)
      (apiKey : Option String)
  /-- The upstream answers a call; the second environment is used if another model is tried. -/
  | answer (id : ℕ) (env : PostEnv) (retry : PreEnv) (body : List UInt8) (status : ℕ)
  | failed (id : ℕ)

def hitEntry (prepared : Except (AIError Json) (Prepared Json)) (e : AIError Json) :
    List (LogEntry Json) :=
  match prepared, e with
  | .ok prepared, .cacheHit response => [.hit prepared.request response]
  | _, _ => []

namespace Gateway

variable (g : Gateway Json) (id : ℕ)

def finish (filter : AIGatewayFilter Json) : Gateway Json :=
  { g with filter := filter, sessions := fun i => if i = id then none else g.sessions i }

def wait (session : Session Json) : Gateway Json :=
  { g with sessions := g.sessions.insert id session }

def record (entries : List (LogEntry Json)) : Gateway Json := { g with log := g.log ++ entries }

def start (id : Option ℕ) (env : PreEnv) (path : String) (body : List UInt8)
    (apiKey : Option String) : Gateway Json :=
  match preProcess cr env path body apiKey g.filter with
  | .ok ctx filter =>
    let g := { g with filter := filter }.record [.called apiKey 0 ctx]
    match id with
    | some id => g.wait id ⟨path, body, apiKey, ctx, ctx.request.model, 0⟩
    | none => g
  | .error e filter =>
    { g with filter := filter }.record (hitEntry (prepare cr g.filter env path body apiKey) e)

def retry (env : PreEnv) (session : Session Json) (nextModel : String) : Gateway Json :=
  match retryCall cr env session nextModel g.filter with
  | .ok session filter =>
    ({ g with filter := filter }.record
      [.called session.apiKey session.attempt session.ctx]).wait id session
  | .error e filter =>
    (g.finish id filter).record
      (hitEntry (prepare cr g.filter env session.path session.body session.apiKey) e)

def answer (env : PostEnv) (retryEnv : PreEnv) (session : Session Json)
    (body : List UInt8) (status : ℕ) : Gateway Json :=
  let g := g.record [.answered session.attempt session.ctx body status]
  match settleCall cr env session body status g.filter with
  | .ok (.inl _) filter => g.finish id filter
  | .ok (.inr nextModel) filter =>
    { g with filter := filter }.retry cr id retryEnv session nextModel
  | .error _ filter => g.finish id filter

/-- A number that is taken starts nothing, and only a call that waits is answered. -/
def step : GatewayEvent Json → Gateway Json
  | .start id env path body apiKey =>
    if (id.bind g.sessions).isSome then g else g.start cr id env path body apiKey
  | .answer id env retryEnv body status =>
    match g.sessions id with
    | some session => g.answer cr id env retryEnv session body status
    | none => g
  | .failed id => g.finish id g.filter

end Gateway

def runGateway (filter : AIGatewayFilter Json) (events : List (GatewayEvent Json)) : Gateway Json :=
  events.foldl (Gateway.step cr) { filter := filter }

/-! ## A small gateway -/

def plainCrates : AiCrates Empty where
  regex := ⟨fun _ _ => [], fun _ _ _ h => absurd h List.not_mem_nil⟩
  json := noFields
  toLowercase text := text
  finish bytes := (bytes.headD 0).toUInt64

def smallResponse : AIResponse Empty := { id := "1", model := "small", choices := [] }

def smallModelAdapter : FormatAdapter Empty where
  parseRequest _ := .ok { messages := [], model := "small" }
  parseResponse body :=
    if body = [] then .error (.formatParse "openai" "missing field choices") else .ok smallResponse
  serializeResponse _ := .ok []
  serializeStreamChunk _ := .ok ""
  parseStreamBody _ := .ok []

def smallThenLarge : ModelFallback :=
  Table.empty.insert "small" ⟨"small", [{ model := "large" }]⟩

def smallContext (model : String) (cacheKey : Option String) : AIContext Empty :=
  ⟨"openai", { messages := [], model := model }, [], cacheKey, none, none⟩

end NantianGateway.Ai
