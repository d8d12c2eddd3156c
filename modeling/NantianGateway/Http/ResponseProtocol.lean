import NantianGateway.Http.Forwarding

/-!
# One response for each request

`do_request_filter` has written exactly one response whenever it says `Ok(true)` and none whenever
it says `Ok(false)`.  Every stage but the last keeps this for a local reason (`Moves`).  A request
whose AI pre-processing fails is answered with status 500, and then the function goes on to its
final `Ok(false)`.
-/

namespace NantianGateway.Http

open Text Stages List

/-! ## The protocol -/

def Silent (st : FilterState) : Prop := st.responses = []

/-- Exactly one response with `Ok(true)`, none with `Ok(false)`. -/
def Answered (handled : Bool) (st : FilterState) : Prop :=
  st.responses.length = if handled then 1 else 0

/-- The protocol of one call; a call that ends in an error is not bound by it. -/
def RespectsProtocol (out : Flow × FilterState) : Prop :=
  match out with
  | (.next, _) => False
  | (.done handled, st) => Answered handled st
  | (.failed, _) => True

def Responding (stage : Stage FilterState) : Prop := Contract Silent Silent Answered stage

def Justified (o : Outcomes) (handled : Bool) (st : FilterState) : Prop :=
  Answered handled st ∧
    (.rateLimited ∈ st.responses → o.listenerWithinRate = false ∨ o.routeWithinRate = false)

def Justifying (o : Outcomes) (stage : Stage FilterState) : Prop :=
  Contract Silent Silent (Justified o) stage

variable {stage : Stage FilterState}

theorem Justifying.responding {o : Outcomes} (h : Justifying o stage) : Responding stage :=
  Contract.mono h (fun _ hst => hst) fun _ _ hout => hout.1

theorem answered_of_responded {st : FilterState} (hst : Silent st) (reply : Reply) :
    Answered true (st.record (.responded reply)) := by
  rw [Answered, responses_record_responded, hst]
  rfl

/-! ## Before the AI gateway -/

section

variable {crate : IpNetCrate} {o : Outcomes} {f : FilterState → FilterState}

theorem Moves.justifying (h : Moves o f stage) : Justifying o stage := by
  intro st hst
  refine ((h.ends st).mono (fun st' hst' => ?_) fun handled st' hends => ?_) st rfl
  · rw [Silent, hst', h.quiet]
    exact hst
  · rw [EndsFrom, hst] at hends
    rcases hends with ⟨rfl, reply, hreplies, hreason⟩ | ⟨rfl, -, hnone⟩
    · refine ⟨by rw [Answered, hreplies]; rfl, fun hmem => hreason ?_⟩
      rw [hreplies] at hmem
      exact (mem_singleton.mp hmem).symm
    · refine ⟨by rw [Answered, hnone]; rfl, fun hmem => ?_⟩
      rw [hnone] at hmem
      exact absurd hmem not_mem_nil

theorem justifying_finish : Justifying o (finish false) := by
  refine contract_finish fun st hst => ⟨by rw [Answered, hst]; rfl, fun hmem => ?_⟩
  rw [hst] at hmem
  exact absurd hmem not_mem_nil

theorem justifying_of_finish (stages : List (Stage FilterState))
    (h : Moves o f (runStages stages)) : Justifying o (runStages (stages ++ [finish false])) := by
  intro st hst
  rw [runStages_append]
  exact (Contract.andThen h.justifying (Contract.andThen justifying_finish contract_pass)) st hst

variable (selections : Selections)

theorem justifying_pathStages : Justifying o (runStages (pathStages crate o selections)) := by
  obtain ⟨fast, grpc, http, fallback⟩ := selections
  cases fast with
  | some selected => exact justifying_of_finish _ (moves_fastPathStages selected)
  | none =>
    cases grpc with
    | some selected => exact justifying_of_finish _ (moves_grpcStages selected)
    | none =>
      cases http with
      | some route => exact (moves_httpRouteStages route).justifying
      | none =>
        cases fallback with
        | some selected => exact justifying_of_finish _ (moves_fallbackStages selected)
        | none => exact moves_noRoute.justifying

theorem justifying_beforeAi :
    Justifying o (runStages (entryStages o ++ pathStages crate o selections)) := by
  intro st hst
  rw [runStages_append]
  exact (Contract.andThen moves_entryStages.justifying (justifying_pathStages selections)) st hst

/-! ## Which requests reach the AI gateway -/

theorem not_handsOn_respond (reply : Reply) (st : FilterState) : ¬HandsOn (respond o reply) st := by
  rw [HandsOn, respond]
  cases o.writes reply <;> simp

theorem handsOn_handler_iff (reply : Reply) (outcome : HandlerOutcome) (st : FilterState) :
    HandsOn (handler reply outcome) st ↔ outcome = .passes := by
  cases outcome <;> simp [handler, HandsOn, Stages.pass, Stages.fail]

theorem handsOn_guardStage_iff (admitted : Bool) (reply : Reply) (st : FilterState) :
    HandsOn (guardStage o admitted reply) st ↔ admitted = true := by
  simp [guardStage, not_handsOn_respond]

theorem handsOn_checkStage_iff (policy : PolicySection) (reply : Reply)
    (outcome : HandlerOutcome) (st : FilterState) :
    HandsOn (checkStage policy reply outcome) st ↔ outcome = .passes := by
  rw [checkStage, handsOn_andThen, handsOn_handler_iff]
  simp

section

variable (route : SelectedHttpRoute) (st : FilterState)

include route st

theorem handsOn_ipFilterStage_iff : HandsOn (ipFilterStage crate o route) st ↔
      handleIpFilter crate route.securityPolicy o.clientAddr = none := by
  unfold ipFilterStage
  cases hip : route.securityPolicy.bind (·.ip) with
  | none => simp [handleIpFilter, hip]
  | some config =>
    simp only [handsOn_checkStage_iff]
    cases handleIpFilter crate route.securityPolicy o.clientAddr with
    | none => simp
    | some response => cases o.writes .ipDenied <;> simp

theorem handsOn_oidcStage_iff : HandsOn (oidcStage o route) st ↔
      ∀ config, (route.securityPolicy.bind (·.authn)).bind (·.oidc) = some config →
        o.oidc config = .passes := by
  unfold oidcStage
  cases (route.securityPolicy.bind (·.authn)).bind (·.oidc) <;> simp [handsOn_checkStage_iff]

theorem handsOn_basicAuthStage_iff : HandsOn (basicAuthStage o route) st ↔
      ∀ config, (route.securityPolicy.bind (·.authn)).bind (·.basicAuth) = some config →
        o.basicAuth config = .passes := by
  unfold basicAuthStage
  cases (route.securityPolicy.bind (·.authn)).bind (·.basicAuth) <;>
    simp [handsOn_checkStage_iff]

theorem handsOn_jwtAuthStage_iff : HandsOn (jwtAuthStage o route) st ↔
      ∀ filter, jwtAuthFilter route.filters = some filter → o.jwt filter = .passes := by
  unfold jwtAuthStage
  cases jwtAuthFilter route.filters <;> simp [handsOn_andThen, handsOn_handler_iff]

end

@[mk_iff]
structure AuthAllows (o : Outcomes) (auth : ExternalAuthFilter) : Prop where
  endpoint : o.authEndpoint auth.backendRef = true
  body : ∀ maxSize, auth.forwardBodyMaxSize.filter (0 < ·) = some maxSize →
    readBody (fun total len => decide (maxSize.toNat < total + len)) o.authBodyReads 0 = .complete
  decision : o.authDecision = .allow

theorem handsOn_authBodyStage_iff (auth : ExternalAuthFilter) (st : FilterState) :
    HandsOn (authBodyStage o auth) st ↔
      ∀ maxSize, auth.forwardBodyMaxSize.filter (0 < ·) = some maxSize →
        readBody (fun total len => decide (maxSize.toNat < total + len)) o.authBodyReads 0 =
          .complete := by
  unfold authBodyStage
  cases auth.forwardBodyMaxSize.filter (0 < ·) with
  | none => simp
  | some maxSize =>
    simp only [Option.some.injEq, forall_eq']
    cases readBody _ o.authBodyReads 0 <;> simp [not_handsOn_respond]

theorem handsOn_authDecisionStage_iff (st : FilterState) :
    HandsOn (authDecisionStage o) st ↔ o.authDecision = .allow := by
  unfold authDecisionStage
  rcases o.authDecision with _ | (_ | _) | _ <;> simp [not_handsOn_respond]

variable (route : SelectedHttpRoute) (st : FilterState)

theorem handsOn_externalAuthStage_iff : HandsOn (externalAuthStage o route) st ↔
      ∀ auth, externalAuthFilter route.filters = some auth → AuthAllows o auth := by
  unfold externalAuthStage
  cases externalAuthFilter route.filters with
  | none => simp
  | some auth =>
    simp [handsOn_runStages_cons, handsOn_runStages_nil, not_handsOn_respond,
      handsOn_authBodyStage_iff, handsOn_authDecisionStage_iff, authAllows_iff]

/-- The backend of the route can be used, or it has none, and no response is cached. -/
def BackendTaken (o : Outcomes) (route : SelectedHttpRoute) : Prop :=
  match selectedBackendFromHttpRoute route o.accessLogEnabled with
  | .error _ => False
  | .ok none => True
  | .ok (some selected) => o.configFails selected.backendName = false ∧ o.cacheHit = .passes

theorem handsOn_backendStage_iff : HandsOn (backendStage o route) st ↔ BackendTaken o route := by
  unfold backendStage BackendTaken
  rcases selectedBackendFromHttpRoute route o.accessLogEnabled with _ | _ | selected
  · simp
  · simp
  · simp only [handsOn_runStages_cons, handsOn_when, not_handsOn_fail, handsOn_handler_iff,
      cacheSelectedBackendState, handsOn_update, true_and]
    exact and_congr (by simp) (and_iff_left (handsOn_pass _))

theorem handsOn_wasmStage_iff :
    HandsOn (wasmStage o) st ↔ ∀ code, o.wasm ≠ some (.rejected code) := by
  unfold wasmStage
  rcases o.wasm with _ | _ | _ | _ <;> simp [not_handsOn_respond]

end

@[mk_iff]
structure Entered (o : Outcomes) : Prop where
  prepared : o.initialFails = false
  directed : o.misdirected = false
  original : o.mirrorSubrequest = none
  header : ¬(0 < o.maxRequestHeaderBytes ∧ o.maxRequestHeaderBytes < o.requestHeaderBytes)
  body : ¬((0 < o.maxRequestBodyBytes ∧ o.maxRequestBodyBytes < o.declaredRequestBodyBytes) ∧
    o.requestHasBody = true)
  admitted : o.listenerAdmitted = true
  withinRate : o.listenerWithinRate = true

@[mk_iff]
structure RouteCleared (crate : IpNetCrate) (o : Outcomes) (route : SelectedHttpRoute) : Prop where
  certificate : o.certificateMissing route.listenerName = false
  admitted : o.routeAdmitted = true
  withinRate : o.routeWithinRate = true
  supported : ensureSupportedFilters route.filters = true
  preflight : o.corsPreflight route.filters = .passes
  direct : directResponseFilter route.filters = none
  redirect : requestRedirectFilter route.filters = none
  ip : handleIpFilter crate route.securityPolicy o.clientAddr = none
  oidc : ∀ config, (route.securityPolicy.bind (·.authn)).bind (·.oidc) = some config →
    o.oidc config = .passes
  basicAuth : ∀ config, (route.securityPolicy.bind (·.authn)).bind (·.basicAuth) = some config →
    o.basicAuth config = .passes
  jwt : ∀ filter, jwtAuthFilter route.filters = some filter → o.jwt filter = .passes
  externalAuth : ∀ auth, externalAuthFilter route.filters = some auth → AuthAllows o auth
  backend : BackendTaken o route
  wasm : ∀ code, o.wasm ≠ some (.rejected code)

section

variable {crate : IpNetCrate} {o : Outcomes}

theorem handsOn_mirrorStage_iff (st : FilterState) :
    HandsOn (mirrorStage o) st ↔ o.mirrorSubrequest = none := by
  unfold mirrorStage
  cases o.mirrorSubrequest <;> simp [handsOn_andThen]

theorem handsOn_entryStages_iff (st : FilterState) :
    HandsOn (runStages (entryStages o)) st ↔ Entered o := by
  simp only [entryStages, handsOn_runStages_cons, handsOn_runStages_nil, handsOn_update,
    handsOn_when, not_handsOn_fail, not_handsOn_respond, handsOn_guardStage_iff,
    handsOn_mirrorStage_iff, imp_false, Bool.and_eq_true, Bool.not_eq_true, decide_eq_true_eq,
    true_and, and_true, entered_iff]

theorem handsOn_httpRouteStages_iff (route : SelectedHttpRoute) (st : FilterState) :
    HandsOn (runStages (httpRouteStages crate o route)) st ↔ RouteCleared crate o route := by
  simp only [httpRouteStages, handsOn_runStages_cons, certificateStage, supportedFiltersStage,
    directResponseStage, redirectStage, handsOn_when, not_handsOn_fail, not_handsOn_respond,
    handsOn_guardStage_iff, handsOn_handler_iff, handsOn_ipFilterStage_iff, handsOn_oidcStage_iff,
    handsOn_basicAuthStage_iff, handsOn_jwtAuthStage_iff, handsOn_externalAuthStage_iff,
    handsOn_backendStage_iff, handsOn_wasmStage_iff, handsOn_runStages_nil, imp_false,
    routeCleared_iff]
  simp

variable (selections : Selections) (st : FilterState)

/-- **Only HTTP routes lead to the AI gateway**; the other paths end the request. -/
theorem handsOn_pathStages_iff : HandsOn (runStages (pathStages crate o selections)) st ↔
      selections.fastPath = none ∧ selections.grpc = none ∧
        ∃ route, selections.http = some route ∧ RouteCleared crate o route := by
  obtain ⟨fast, grpc, http, fallback⟩ := selections
  cases fast with
  | some selected => simp [pathStages, fastPathStages, handsOn_runStages_cons]
  | none =>
    cases grpc with
    | some selected => simp [pathStages, grpcStages, handsOn_runStages_cons]
    | none =>
      cases http with
      | some route => simp [pathStages, handsOn_httpRouteStages_iff]
      | none =>
        cases fallback with
        | some selected => simp [pathStages, fallbackStages, handsOn_runStages_cons]
        | none => simp [pathStages, handsOn_runStages_cons, not_handsOn_respond]

def ReachesAi (crate : IpNetCrate) (o : Outcomes) (selections : Selections) : Prop :=
  Entered o ∧ selections.fastPath = none ∧ selections.grpc = none ∧
    ∃ route, selections.http = some route ∧ RouteCleared crate o route

theorem handsOn_beforeAi_iff :
    HandsOn (runStages (entryStages o ++ pathStages crate o selections)) st ↔
      ReachesAi crate o selections := by
  rw [HandsOn, runStages_append, ← HandsOn, handsOn_andThen, handsOn_entryStages_iff,
    handsOn_pathStages_iff, ReachesAi]

/-! ## The AI gateway -/

/-- The AI gateway is configured, takes the path, reads the whole body, fails on it with an error
other than an unsupported format, and its response can be written. -/
def AiRejects (o : Outcomes) : Prop :=
  ∃ ai, o.ai = some ai ∧ ai.processesPath = true ∧
    readBody (aiRequestBodyLimitExceeded · · ai.maxRequestBodyBytes) ai.bodyReads 0 = .complete ∧
      ai.preProcess = .failed ∧ o.writes .aiRejected = true

theorem justifying_aiStage (h : ¬AiRejects o) : Justifying o (aiStage o) := by
  unfold aiStage
  cases hai : o.ai with
  | none => exact contract_pass
  | some ai =>
    dsimp only
    cases hpath : ai.processesPath with
    | false => exact justifying_finish
    | true =>
      cases hread : readBody (aiRequestBodyLimitExceeded · · ai.maxRequestBodyBytes)
          ai.bodyReads 0 with
      | tooLarge | error => exact (moves_respond (by simp)).justifying
      | complete =>
        cases hpre : ai.preProcess with
        | processed | unsupportedFormat => exact contract_pass
        | failed =>
          -- the response could not be written, so the call ends in an error
          cases hwrites : o.writes .aiRejected with
          | true => exact absurd ⟨ai, hai, hpath, hread, hpre, hwrites⟩ h
          | false => simp [Justifying, Contract]

theorem aiStage_of_aiRejects (h : AiRejects o) (st : FilterState) :
    aiStage o st = (.next, st.record (.responded .aiRejected)) := by
  obtain ⟨ai, hai, hpath, hread, hpre, hwrites⟩ := h
  simp [aiStage, hai, hpath, hread, hpre, hwrites]

theorem respectsProtocol_of_responding {stage : Stage FilterState} (h : Responding stage)
    {st : FilterState} (hst : Silent st) :
    RespectsProtocol ((stage.andThen (finish false)) st) := by
  have hfinish : Contract Silent (fun _ => False) Answered (finish false) :=
    contract_finish fun st hst => by rw [Answered, hst]; rfl
  have hrun := (Contract.andThen h hfinish) st hst
  generalize (stage.andThen (finish false)) st = out at hrun ⊢
  rcases out with ⟨_ | _ | _, _⟩ <;> exact hrun

theorem respectsProtocol_ai_iff {st : FilterState} (hst : Silent st) :
    RespectsProtocol (((aiStage o).andThen (finish false)) st) ↔ ¬AiRejects o := by
  constructor
  · intro hrespects hrejects
    rw [Stage.andThen, aiStage_of_aiRejects hrejects] at hrespects
    have hone := answered_of_responded hst .aiRejected
    rw [Answered] at hone
    have hnone : (st.record (.responded .aiRejected)).responses.length = 0 := hrespects
    rw [hone] at hnone
    exact absurd hnone (by decide)
  · exact fun h => respectsProtocol_of_responding (justifying_aiStage h).responding hst

/-- **The protocol of `do_request_filter`**: a call writes one response with `Ok(true)` and none
with `Ok(false)` if and only if the request does not fail the pre-processing of the AI gateway. -/
theorem respects_protocol_iff (crate : IpNetCrate) (o : Outcomes) (selections : Selections) :
    RespectsProtocol (doRequestFilter crate o selections {}) ↔
      ¬(ReachesAi crate o selections ∧ AiRejects o) := by
  have hbefore := (@justifying_beforeAi crate o selections).responding {} rfl
  have hreaches := @handsOn_beforeAi_iff crate o selections {}
  rw [doRequestFilter, Stage.andThen]
  rw [HandsOn] at hreaches
  generalize runStages (entryStages o ++ pathStages crate o selections) {} = out at *
  obtain ⟨flow, st⟩ := out
  cases flow with
  | next =>
    rw [← hreaches]
    simp only [true_and]
    exact respectsProtocol_ai_iff hbefore
  | done handled =>
    have hended : ¬ReachesAi crate o selections := by
      intro h
      cases hreaches.mpr h
    exact iff_of_true hbefore fun h => hended h.1
  | failed =>
    have hended : ¬ReachesAi crate o selections := by
      intro h
      cases hreaches.mpr h
    exact iff_of_true trivial fun h => hended h.1

theorem refused_of_rateLimited {selections : Selections} {st : FilterState}
    (h : doRequestFilter crate o selections {} = (.done true, st))
    (hreply : .rateLimited ∈ st.responses) :
    o.listenerWithinRate = false ∨ o.routeWithinRate = false := by
  by_cases hrejects : AiRejects o
  · -- past the AI gateway the call ends with `Ok(false)`
    have hbefore := @justifying_beforeAi crate o selections {} rfl
    rw [doRequestFilter, Stage.andThen] at h
    generalize runStages (entryStages o ++ pathStages crate o selections) {} = out at *
    obtain ⟨flow, st'⟩ := out
    cases flow with
    | next =>
      have hai : ((aiStage o).andThen (finish false)) st' = (.done true, st) := h
      rw [Stage.andThen, aiStage_of_aiRejects hrejects] at hai
      cases hai
    | done handled =>
      cases h
      exact hbefore.2 hreply
    | failed => cases h
  · have hcontract : Justifying o (doRequestFilter crate o selections) :=
      (justifying_beforeAi selections).andThen
        ((justifying_aiStage hrejects).andThen justifying_finish)
    have hout := hcontract {} rfl
    rw [h] at hout
    exact hout.2 hreply

end

def plainRoute : SelectedHttpRoute where
  routeName := "chat"
  routeNamespace := "default"
  ruleIndex := some 0
  routeAnnotations := .empty
  listenerName := "default/gw/http"
  listenerProtocol := "LISTENER_PROTOCOL_HTTP"
  filters := []
  matchedHttpPath := { path := "/v1", pathType := "PathPrefix" }
  backend := some { address := "10.0.0.10", port := 8080, healthy := true }
  backendName := some "default/chat:8080"
  backendError := none
  timeouts := none
  retry := none
  sessionPersistence := none
  backendTls := none
  securityPolicy := none

private def failingChat : Outcomes where
  ai := some ⟨true, [.chunk 64, .done], 1048576, .failed⟩

/-- **A response is written and the request goes on to the upstream.** -/
theorem ai_failure_answered_and_forwarded :
    (doRequestFilter cidrBlocks failingChat ⟨none, none, some plainRoute, none⟩ {}).1
      = .done false ∧
    (doRequestFilter cidrBlocks failingChat ⟨none, none, some plainRoute, none⟩ {}).2.responses =
      [.aiRejected] ∧
    ¬RespectsProtocol
      (doRequestFilter cidrBlocks failingChat ⟨none, none, some plainRoute, none⟩ {}) := by
  have hrun : (doRequestFilter cidrBlocks failingChat ⟨none, none, some plainRoute, none⟩ {}).1 =
        .done false ∧
      (doRequestFilter cidrBlocks failingChat ⟨none, none, some plainRoute, none⟩ {}).2.responses =
        [.aiRejected] := by
    decide +kernel
  refine ⟨hrun.1, hrun.2, fun h => ?_⟩
  generalize doRequestFilter cidrBlocks failingChat ⟨none, none, some plainRoute, none⟩ {} = out
    at hrun h
  obtain ⟨flow, st⟩ := out
  obtain ⟨rfl, hresponses⟩ := hrun
  rw [RespectsProtocol, Answered, hresponses] at h
  exact absurd h (by decide)

end NantianGateway.Http
