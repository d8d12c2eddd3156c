import NantianGateway.Ai.Sessions
import NantianGateway.Http.Headers
import NantianGateway.Http.ResponseProtocol

/-!
# What the AI gateway says and what the client gets

The response found in the semantic cache is an error too (`AIError::CacheHit`).
`do_request_filter` answers everything but an unsupported format with status 500, and goes on.  So
a hit never reaches the client, and a request that the AI gateway refuses is forwarded.
-/

namespace NantianGateway.Http

open Text Stages

variable {Json : Type}

/-! ## The step -/

inductive BodyPart where
  | chunk (bytes : List UInt8)
  | done
  | error
  deriving DecidableEq

def BodyPart.read : BodyPart → BodyRead
  | .chunk bytes => .chunk bytes.length
  | .done => .done
  | .error => .error

def bodyOf : List BodyPart → List UInt8
  | .chunk bytes :: parts => bytes ++ bodyOf parts
  | _ => []

structure AiRequest where
  path : String
  headers : HeaderMap := []
  body : List BodyPart := []

/-- The key of `Authorization: Bearer <key>`, or else that of `x-api-key`. -/
def AiRequest.apiKey (request : AiRequest) : Option String :=
  (((request.headers.get "authorization").bind toStr).bind (stripFront "Bearer ")).or
    ((request.headers.get "x-api-key").bind toStr)

def aiGatewayShouldProcessPath (path : String) : Bool := (Ai.detectFormat path).isSome

variable {σ : Type}

def aiPreProcess : EStateM.Result (Ai.AIError Json) σ (Ai.AIContext Json) → AiPreProcess
  | .ok _ _ => .processed
  | .error (.unsupportedFormat _) _ => .unsupportedFormat
  | .error _ _ => .failed

section

variable (cr : Ai.AiCrates Json) (env : Ai.PreEnv) (filter : Ai.AIGatewayFilter Json)
  (maxRequestBodyBytes : ℕ) (request : AiRequest)

def preProcessOwned : EStateM.Result (Ai.AIError Json) (Ai.AIGatewayFilter Json)
    (Ai.AIContext Json) :=
  Ai.preProcess cr env request.path (bodyOf request.body) request.apiKey filter

def aiOutcome : AiOutcome where
  processesPath := aiGatewayShouldProcessPath request.path
  bodyReads := request.body.map BodyPart.read
  maxRequestBodyBytes := maxRequestBodyBytes
  preProcess := aiPreProcess (preProcessOwned cr env filter request)

def Outcomes.withAi (o : Outcomes) : Outcomes :=
  { o with ai := some (aiOutcome cr env filter maxRequestBodyBytes request) }

end

/-! ## What the client is to get -/

/-- What a reply of the AI step gives to the client: a status and, if it has one, the response of
the cache. -/
def Reply.ofAi : Reply → Option (ℕ × Option (Ai.AIResponse Json))
  | .aiBodyTooLarge => some (413, none)
  | .aiReadFailed => some (500, none)
  | .aiRejected => some (500, none)
  | _ => none

def Receives (st : FilterState) (response : Ai.AIResponse Json) : Prop :=
  ∃ reply ∈ st.responses, ∃ status, reply.ofAi = some (status, some response) ∧
    200 ≤ status ∧ status < 300

/-- The request gets to the pre-processing: past every stage before it, on a path of the AI
gateway, with a body that is read to its end. -/
def PreProcessed (crate : IpNetCrate) (o : Outcomes) (selections : Selections) : Prop :=
  ReachesAi crate o selections ∧ ∃ ai, o.ai = some ai ∧ ai.processesPath = true ∧
    readBody (aiRequestBodyLimitExceeded · · ai.maxRequestBodyBytes) ai.bodyReads 0 = .complete

/-- A failure other than an unsupported path: what it is that a client has to be told. -/
def Failure : Ai.AIError Json → Prop
  | .unsupportedFormat _ => False
  | .cacheHit _ => False
  | _ => True

/-- **The outcomes of the pre-processing reach the client**: a hit is given to the client, and
after a failure the request is not forwarded. -/
def OutcomesReachClient (answer : EStateM.Result (Ai.AIError Json) σ (Ai.AIContext Json))
    (out : Flow × FilterState) : Prop :=
  ∀ e s, answer = .error e s → (∀ response, e = .cacheHit response → Receives out.2 response) ∧
    (Failure e → out.1 ≠ .done false)

/-! ## What it gets -/

section

variable {crate : IpNetCrate} {o : Outcomes} {selections : Selections}

theorem not_receives (st : FilterState) (response : Ai.AIResponse Json) :
    ¬ Receives st response := by
  rintro ⟨reply, -, status, hreply, -⟩
  cases reply <;> cases hreply

theorem aiPreProcess_of_failure {e : Ai.AIError Json} {s : σ} (h : Failure e) :
    aiPreProcess (.error e s) = .failed := by
  cases e with
  | unsupportedFormat path => exact h.elim
  | _ => rfl

theorem exists_of_reachesAi (h : ReachesAi crate o selections) :
    ∃ st, doRequestFilter crate o selections {} = ((aiStage o).andThen (finish false)) st := by
  have hnext := (@handsOn_beforeAi_iff crate o selections {}).mpr h
  rw [HandsOn] at hnext
  rw [doRequestFilter, Stage.andThen]
  generalize runStages (entryStages o ++ pathStages crate o selections) {} = out at *
  obtain ⟨flow, st⟩ := out
  obtain rfl : flow = .next := hnext
  exact ⟨st, rfl⟩

/-- **The missing return**: a failure that is told is forwarded. -/
theorem doRequestFilter_of_told (h : ReachesAi crate o selections) (hrejects : AiRejects o) :
    (doRequestFilter crate o selections {}).1 = .done false := by
  obtain ⟨st, hst⟩ := exists_of_reachesAi h
  rw [hst, Stage.andThen, aiStage_of_aiRejects hrejects]
  rfl

theorem doRequestFilter_of_untold (h : PreProcessed crate o selections) {ai : AiOutcome}
    (hai : o.ai = some ai) (hfailed : ai.preProcess = .failed)
    (hwrites : o.writes .aiRejected = false) :
    (doRequestFilter crate o selections {}).1 = .failed := by
  obtain ⟨hreaches, ai', hai', hpath, hread⟩ := h
  obtain rfl : ai = ai' := Option.some.inj (hai.symm.trans hai')
  obtain ⟨st, hst⟩ := exists_of_reachesAi hreaches
  rw [hst, Stage.andThen]
  simp [aiStage, hai, hpath, hread, hfailed, hwrites]

end

/-- **When the outcomes of the pre-processing reach the client**: exactly if it is neither a hit nor
a failure that the client is told. -/
theorem outcomes_reach_client_iff (crate : IpNetCrate) (o : Outcomes) (selections : Selections)
    (cr : Ai.AiCrates Json) (env : Ai.PreEnv) (filter : Ai.AIGatewayFilter Json)
    (maxRequestBodyBytes : ℕ) (request : AiRequest) :
    (PreProcessed crate (o.withAi cr env filter maxRequestBodyBytes request) selections →
      OutcomesReachClient (preProcessOwned cr env filter request)
        (doRequestFilter crate (o.withAi cr env filter maxRequestBodyBytes request)
          selections {})) ↔
    ¬ (PreProcessed crate (o.withAi cr env filter maxRequestBodyBytes request) selections ∧
      ∃ e s, preProcessOwned cr env filter request = .error e s ∧
        ((∃ response, e = .cacheHit response) ∨ (Failure e ∧ o.writes .aiRejected = true))) := by
  constructor
  · rintro h ⟨hpre, e, s, hanswer, hhit | ⟨hfail, hwrites⟩⟩
    · obtain ⟨response, rfl⟩ := hhit
      exact not_receives _ response ((h hpre _ s hanswer).1 response rfl)
    · refine (h hpre e s hanswer).2 hfail (doRequestFilter_of_told hpre.1 ?_)
      obtain ⟨-, ai, hai, hpath, hread⟩ := hpre
      obtain rfl := Option.some.inj hai
      refine ⟨_, rfl, hpath, hread, ?_, hwrites⟩
      rw [aiOutcome, hanswer]
      exact aiPreProcess_of_failure hfail
  · intro h hpre e s hanswer
    refine ⟨fun response he => absurd ⟨hpre, e, s, hanswer, .inl ⟨response, he⟩⟩ h,
      fun hfail => ?_⟩
    -- the client cannot be told, so the call fails
    cases hwrites : o.writes .aiRejected with
    | true => exact absurd ⟨hpre, e, s, hanswer, .inr ⟨hfail, hwrites⟩⟩ h
    | false =>
      rw [doRequestFilter_of_untold hpre rfl _ hwrites]
      · exact nofun
      · rw [aiOutcome, hanswer]
        exact aiPreProcess_of_failure hfail

private def chatRequest : AiRequest where
  path := "/v1/chat/completions"
  body := [.chunk [1], .done]

private def warmFilter : Ai.AIGatewayFilter Empty where
  adapters := Table.empty.insert "openai" Ai.smallModelAdapter
  semanticCache := some (Ai.SemanticCache.store {} 0 0 "cache:0000000000000073" Ai.smallResponse)

variable (filter : Ai.AIGatewayFilter Empty)

private def chatOutcomes : Outcomes :=
  Outcomes.withAi Ai.plainCrates {} filter 1048576 chatRequest {}

private def answersHit : Bool :=
  match preProcessOwned Ai.plainCrates {} filter chatRequest with
  | .error (.cacheHit response) _ => decide (response = Ai.smallResponse)
  | _ => false

private theorem exists_of_answersHit {filter : Ai.AIGatewayFilter Empty}
    (h : answersHit filter = true) :
    ∃ s, preProcessOwned Ai.plainCrates {} filter chatRequest
      = .error (.cacheHit Ai.smallResponse) s := by
  unfold answersHit at h
  split at h
  next response s hanswer => exact ⟨s, by rw [hanswer, of_decide_eq_true h]⟩
  next => cases h

/-- **A hit is answered with status 500, and the request goes on to the upstream.** -/
theorem hit_answered_and_forwarded : (∃ s, preProcessOwned Ai.plainCrates {} warmFilter chatRequest
      = .error (.cacheHit Ai.smallResponse) s) ∧
    (doRequestFilter cidrBlocks (chatOutcomes warmFilter) ⟨none, none, some plainRoute, none⟩ {}).1
      = .done false ∧
    (doRequestFilter cidrBlocks (chatOutcomes warmFilter)
      ⟨none, none, some plainRoute, none⟩ {}).2.responses = [.aiRejected] ∧
    (Reply.aiRejected.ofAi : Option (ℕ × Option (Ai.AIResponse Empty))) = some (500, none) ∧
    ¬ (PreProcessed cidrBlocks (chatOutcomes warmFilter) ⟨none, none, some plainRoute, none⟩ →
      OutcomesReachClient (preProcessOwned Ai.plainCrates {} warmFilter chatRequest)
        (doRequestFilter cidrBlocks (chatOutcomes warmFilter)
          ⟨none, none, some plainRoute, none⟩ {})) := by
  obtain ⟨s, hanswer⟩ := exists_of_answersHit (by decide +kernel : answersHit warmFilter = true)
  have hreaches : ReachesAi cidrBlocks (chatOutcomes warmFilter)
      ⟨none, none, some plainRoute, none⟩ := by
    rw [← handsOn_beforeAi_iff _ {}, HandsOn]
    decide +kernel
  refine ⟨⟨s, hanswer⟩, by decide +kernel, by decide +kernel, rfl, fun h => ?_⟩
  have hreach := h ⟨hreaches, _, rfl, by decide +kernel, by decide +kernel⟩
  exact not_receives _ _ ((hreach _ s hanswer).1 Ai.smallResponse rfl)

end NantianGateway.Http
