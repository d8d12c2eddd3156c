import NantianGateway.Http.RequestSelection

/-!
# Retrying a request

When the connection to a backend fails, `try_prepare_transport_retry` remembers its endpoint as
excluded, and `do_upstream_peer` selects again.  The second description of the request has no
headers, and its port is that of the connection.
-/

namespace NantianGateway.Http

open Text Stages Option Snapshot

/-! ## The retry -/

structure TransportRetryExcludedEndpoint where
  backendName : String
  address : String
  port : UInt32
  deriving DecidableEq

def TransportRetryExcludedEndpoint.new (backendName : String) (endpoint : BackendEndpoint) :
    TransportRetryExcludedEndpoint :=
  ⟨backendName, endpoint.address, endpoint.port⟩

/-- The part of the request context that retries read and write. -/
structure RetryContext where
  method : String
  retryAttempts : ℕ := 0
  selectedBackend : Option SelectedBackend := none
  fastSelectedBackend : Option CompiledSelectedHttpBackend := none
  transportRetryExcludedEndpoints : List TransportRetryExcludedEndpoint := []
  deriving DecidableEq

def requestIsRetryReplayable (ctx : RetryContext) : Bool :=
  ["GET", "HEAD", "OPTIONS", "TRACE", "PUT", "DELETE"].any fun method =>
    eqIgnoreAsciiCase ctx.method method

def rememberTransportRetryExcludedEndpoint (ctx : RetryContext) : RetryContext :=
  match (ctx.selectedBackend.map fun selected =>
      TransportRetryExcludedEndpoint.new selected.backendName selected.backend).or
    (ctx.fastSelectedBackend.map fun selected =>
      TransportRetryExcludedEndpoint.new selected.backendName selected.backend) with
  | none => ctx
  | some excluded =>
    if excluded ∈ ctx.transportRetryExcludedEndpoints then ctx
    else
      { ctx with
        transportRetryExcludedEndpoints := ctx.transportRetryExcludedEndpoints ++ [excluded] }

/-- What a retry meets: the session's buffer, the budget, the error, and what the selections
find. -/
structure RetryAttempt where
  retryBufferTruncated : Bool := false
  budgetAcquired : Bool := true
  defaultTransportRetryableError : Bool := true
  configFails : String → Bool := fun _ => false
  moments : ℕ → Moment := fun _ => {}

/-- `try_prepare_retry_with_limit` after a transport failure; `none` is no retry. -/
def tryPrepareRetryWithLimit (attempt : RetryAttempt) (retryLimit : ℕ) (ctx : RetryContext) :
    Option RetryContext :=
  if requestIsRetryReplayable ctx && !attempt.retryBufferTruncated &&
      decide (ctx.retryAttempts < retryLimit) && attempt.budgetAcquired then
    some { rememberTransportRetryExcludedEndpoint ctx with
        retryAttempts := ctx.retryAttempts + 1
        selectedBackend := none
        fastSelectedBackend := none }
  else none

def retryLimit (policy : RetryPolicy) : ℕ :=
  if policy.attempts = 0 then 1 else policy.attempts.toNat

/-- Without a policy `DEFAULT_TRANSPORT_CONNECT_RETRIES` is the limit. -/
def tryPrepareTransportRetry (attempt : RetryAttempt) (ctx : RetryContext) : Option RetryContext :=
  match ctx.selectedBackend.bind fun selected => selected.retry with
  | some policy => tryPrepareRetryWithLimit attempt (retryLimit policy) ctx
  | none =>
    if attempt.defaultTransportRetryableError then tryPrepareRetryWithLimit attempt 1 ctx else none

section

variable (cr : Crates) (s : Snapshot) (proxy : GatewayProxy) (request : DownstreamRequest)

def reselect (moment : Moment) : Option SelectedBackend :=
  (selectBackend cr (s.asOf moment) (buildRequestMeta cr request)
    (proxy.resolveTarget (buildRequestMeta cr request).headers) moment.now moment.state).1

/-- The selections until one is not excluded; the first of them is the last resort. -/
def reselectLoop (excluded : SelectedBackend → Bool) (lastResort : Option SelectedBackend) :
    List Moment → Option SelectedBackend
  | [] => lastResort
  | moment :: moments =>
    (reselect cr s proxy request moment).bind fun selected =>
      if excluded selected then reselectLoop excluded (lastResort.or (some selected)) moments
      else some selected

def selectBackendWithTransportRetryExclusions (excluded : List TransportRetryExcludedEndpoint)
    (moments : ℕ → Moment) : Option SelectedBackend :=
  if excluded = [] then reselect cr s proxy request (moments 0)
  else
    reselectLoop cr s proxy request
      (fun selected => .new selected.backendName selected.backend ∈ excluded) none
      ((List.range (max 8 (excluded.length + 1))).map moments)

/-- `do_upstream_peer`, as far as it selects; `none` is an error. -/
def doUpstreamPeer (attempt : RetryAttempt) (ctx : RetryContext) : Option RetryContext :=
  if ctx.fastSelectedBackend.isSome then some ctx
  else
    match ctx.selectedBackend with
    | some _ => some ctx
    | none =>
      (selectBackendWithTransportRetryExclusions cr s proxy request
        ctx.transportRetryExcludedEndpoints attempt.moments).bind fun selected =>
          if attempt.configFails selected.backendName || !ensureSupportedFilters selected.filters
          then none
          else some { ctx with selectedBackend := some selected }

def retryStep (ctx : RetryContext) (attempt : RetryAttempt) : Option RetryContext :=
  (tryPrepareTransportRetry attempt ctx).bind (doUpstreamPeer cr s proxy request attempt)

def retryRun (ctx : RetryContext) (attempts : List RetryAttempt) : Option RetryContext :=
  attempts.foldlM (retryStep cr s proxy request) ctx

end

def retryContext (st : FilterState) (request : DownstreamRequest) : RetryContext :=
  { method := request.method
    selectedBackend := st.selectedBackend
    fastSelectedBackend := st.fastSelectedBackend }

def RetryContext.rule (ctx : RetryContext) : Option RuleRef :=
  (ctx.fastSelectedBackend.map fun selected => selected.ruleRef).or
    (ctx.selectedBackend.map fun selected => selected.ruleRef)

/-! ## The path without the query -/

theorem requestPathWithoutQuery_pathAndQuery (view : RequestView) :
    requestPathWithoutQuery view.pathAndQuery = requestPathWithoutQuery view.path := by
  rw [RequestView.pathAndQuery]
  cases view.query with
  | none => rfl
  | some query =>
    have happend : (view.path ++ "?" ++ query).toList
        = view.path.toList ++ '?' :: query.toList := by simp
    rw [requestPathWithoutQuery, requestPathWithoutQuery, splitOnce, splitOnce, happend]
    cases hcut : cutFirst '?' view.path.toList with
    | none =>
      rw [cutFirst_eq_some_iff.mpr ⟨rfl, cutFirst_eq_none_iff.mp hcut⟩]
      simp
    | some parts =>
      obtain ⟨hparts, hfirst⟩ := cutFirst_eq_some_iff.mp hcut
      have hcut' : cutFirst '?' (view.path.toList ++ '?' :: query.toList)
          = some (parts.1, parts.2 ++ '?' :: query.toList) :=
        cutFirst_eq_some_iff.mpr ⟨by rw [hparts]; simp, hfirst⟩
      rw [hcut']
      rfl

theorem selectHttpFastPath_congr {cr : Crates} {s : Snapshot} (request : HttpFastPathRequest)
    (path : String) (h : requestPathWithoutQuery path = requestPathWithoutQuery request.path)
    (now : Instant) (st : SelectionState) :
    s.selectHttpFastPath cr { request with path := path } now st
      = s.selectHttpFastPath cr request now st := by
  have hcontexts : HttpFastPathPlan.routeContexts cr s { request with path := path }
      = HttpFastPathPlan.routeContexts cr s request := by
    funext compiled
    simp only [HttpFastPathPlan.routeContexts, h]
    rfl
  have hstep : s.httpFastPath.routeStep cr s { request with path := path } now
      = s.httpFastPath.routeStep cr s request now := by
    funext acc compiled
    rw [HttpFastPathPlan.routeStep, HttpFastPathPlan.routeStep, hcontexts]
  rw [selectHttpFastPath, selectHttpFastPath, HttpFastPathPlan.select,
    HttpFastPathPlan.select, hstep]
  rfl

/-! ## The choice for a retry -/

section

variable {cr : Crates} {s : Snapshot} {proxy : GatewayProxy} {request : DownstreamRequest}
  {moments : InitialMoments}

theorem httpChoice_asOf (moment : Moment) (slowRequest : RequestMeta) :
    httpChoice cr (s.asOf moment) slowRequest = httpChoice cr s slowRequest := rfl

variable (request) in
theorem toMeta_fastPathRequestFromHeader :
    HttpFastPathRequest.toMeta cr { fastPathRequestFromHeader request request.serverPort with
      path := request.pathAndQuery } .empty request.clientIp = buildRequestMeta cr request := rfl

theorem choice_of_fastPath (h : s.Indexed cr)
    (hport : proxy.requestServerPort request = request.serverPort)
    (hknown : request.serverPort ≠ 0) {selected : CompiledSelectedHttpBackend}
    (hselected : initialFastPath cr s proxy request moments = some selected) :
    (httpChoice cr s (buildRequestMeta cr request)).map RouteMatch.ruleRef
      = some selected.ruleRef := by
  rw [initialFastPath, hport] at hselected
  split at hselected
  next =>
    rw [← selectHttpFastPath_congr (fastPathRequestFromHeader request request.serverPort)
      request.pathAndQuery
        (requestPathWithoutQuery_pathAndQuery request.toRequestView)] at hselected
    rw [← toMeta_fastPathRequestFromHeader request, ← httpChoice_asOf moments.fastPath]
    exact fastPath_rule (h.asOf moments.fastPath) hknown hselected .empty request.clientIp
  next => cases hselected

variable {route : SelectedHttpRoute} {rule : RuleRef} {selected : SelectedBackend}
  {attempt : RetryAttempt} {ctx ctx' : RetryContext}

theorem choice_of_httpRoute (hport : proxy.requestServerPort request = request.serverPort)
    (hfree : ∀ way, httpChoice cr s (initialRequestMeta cr s proxy request) = some way →
      way.score.rule.headerCount = 0)
    (hroute : initialHttp cr s proxy request moments = some route) :
    (httpChoice cr s (buildRequestMeta cr request)).map RouteMatch.ruleRef
        = some route.ruleRef := by
  rw [initialHttp] at hroute
  split at hroute
  next =>
    have hrule := congrArg (Option.map SelectedHttpRoute.ruleRef) hroute
    rw [selectHttpRoute_rule, httpChoice_asOf, map_some] at hrule
    obtain ⟨way, hway, href⟩ := map_eq_some_iff.mp hrule
    rw [(bare_buildRequestMeta hport).httpChoice_eq hway (hfree way hway), map_some, href]
  next => cases hroute

/-- Every listener on the port of a request that stands in front of a service of the mesh is idle:
neither it nor its service has a route attached. -/
def OnlyIdleFrontends (s : Snapshot) (request : RequestMeta) : Prop :=
  ∀ listener ∈ s.listeners, listener.port = request.port →
    ∀ frontend ∈ s.serviceFrontendForListener listener,
      s.hasNoAttachedRoutes listener frontend = true

instance (request : RequestMeta) : Decidable (OnlyIdleFrontends s request) :=
  inferInstanceAs (Decidable (∀ listener ∈ s.listeners, listener.port = request.port →
    ∀ frontend ∈ s.serviceFrontendForListener listener, _))

theorem port_of_frontendPortIndex (h : s.Indexed cr) {port : UInt32} {indices : List ℕ}
    (hindices : s.serviceFrontendListenerPortIndex port = some indices) {index : ℕ}
    (hmem : index ∈ indices) {listener : Listener} (hat : s.listeners[index]? = some listener) :
    listener.port = port := by
  rw [h.serviceFrontendListenerPortIndex, buildServiceFrontendListenerPortIndex,
    Table.pushAll_apply, ite_none_left_eq_some] at hindices
  have hvalue := Table.mem_valuesAt.mp ((Option.some.inj hindices.2).symm ▸ hmem)
  obtain ⟨entry, hentry, hpair⟩ := List.mem_map.mp hvalue
  obtain ⟨hport, rfl⟩ := Prod.mk.inj hpair
  have hat' := getElem?_of_mem_zipIdx (List.mem_filter.mp hentry).1
  rw [← hport, Option.some.inj (hat.symm.trans hat')]

theorem defaultBackendFromIndices_eq_none {slowRequest : RequestMeta}
    (hidle : OnlyIdleFrontends s slowRequest) (now : Instant) (st : SelectionState)
    {indices : List ℕ}
    (hports : ∀ index ∈ indices, ∀ listener, s.listeners[index]? = some listener →
      listener.port = slowRequest.port) :
    s.defaultBackendFromIndices now indices st = (none, st) := by
  induction indices with
  | nil => rfl
  | cons index indices ih =>
    rw [defaultBackendFromIndices]
    cases hat : s.listeners[index]? with
    | none => rfl
    | some listener =>
      have hport := hports index List.mem_cons_self listener hat
      dsimp only
      cases hfrontend : s.serviceFrontendForListener listener with
      | none => rfl
      | some frontend =>
        dsimp only
        rw [if_pos (hidle listener (List.mem_of_getElem? hat) hport frontend hfrontend)]
        exact ih fun later hlater => hports later (List.mem_cons_of_mem _ hlater)

theorem selectDefault_eq_none (h : s.Indexed cr) {slowRequest : RequestMeta}
    (hidle : OnlyIdleFrontends s slowRequest) (now : Instant) (st : SelectionState) :
    (s.selectListenerDefaultBackend slowRequest now st).1 = none := by
  have hslow : s.selectListenerDefaultBackendSlowPath slowRequest now st = (none, st) := by
    rw [selectListenerDefaultBackendSlowPath]
    split
    · rfl
    · next listener frontend hfirst =>
      obtain ⟨found, hmem, hfound⟩ := List.exists_of_findSome?_eq_some hfirst
      split at hfound
      · next hport =>
        obtain ⟨candidate, hcandidate, hpair⟩ := map_eq_some_iff.mp hfound
        obtain ⟨rfl, rfl⟩ := Prod.mk.inj hpair
        exact if_pos (hidle found hmem hport candidate hcandidate)
      · cases hfound
  have hindexed : s.selectListenerDefaultBackendFromIndices slowRequest now st = (none, st) := by
    rw [selectListenerDefaultBackendFromIndices]
    cases hindices : s.serviceFrontendListenerPortIndex slowRequest.port with
    | none => rfl
    | some indices =>
      exact defaultBackendFromIndices_eq_none hidle now st fun index hmem listener hat =>
        port_of_frontendPortIndex h hindices hmem hat
  rw [selectListenerDefaultBackend, if_pos h.ready, hindexed]
  exact congrArg Prod.fst hslow

theorem httpRoutes_ne_nil_of_httpChoice {slowRequest : RequestMeta} {way : RouteMatch}
    (h : httpChoice cr s slowRequest = some way) : s.hasL7Routes = true := by
  by_contra hnone
  have hroutes : s.httpRoutes = [] := by
    simp [hasL7Routes] at hnone
    exact hnone.1
  have hcontexts : s.httpRuleContexts slowRequest = [] := by
    rw [httpRuleContexts, hostnameRouteCandidates, hroutes]
    simp
  rw [httpChoice, hcontexts] at h
  cases h

/-! ## Reselecting -/

/-- **A backend selected for a retry comes from the rule chosen for it**, where no default backend
can step in. -/
theorem ruleRef_of_reselect (h : s.Indexed cr)
    (hdefault : s.hasServiceFrontendHttpRouteCandidate (buildRequestMeta cr request) = true ∨
      OnlyIdleFrontends s (buildRequestMeta cr request))
    (hchoice : (httpChoice cr s (buildRequestMeta cr request)).map RouteMatch.ruleRef = some rule)
    {moment : Moment} (hselected : reselect cr s proxy request moment = some selected) :
    selected.ruleRef = rule := by
  rcases selectBackend_cases not_isGrpcRequest_buildRequestMeta hselected with
    ⟨route, hroute, hbackend⟩ | ⟨hcandidate, st', hstep⟩ | hnil
  · have hrule := congrArg (Option.map SelectedHttpRoute.ruleRef) hroute
    rw [selectHttpRoute_rule, httpChoice_asOf, hchoice, map_some] at hrule
    rw [SelectedHttpRoute.ruleRef_of_intoBackend hbackend]
    exact (Option.some.inj hrule).symm
  · rcases hdefault with hdefault | hdefault
    · exact absurd (hdefault.symm.trans hcandidate) (by decide)
    · rw [selectDefault_eq_none (h.asOf moment) hdefault] at hstep
      cases hstep
  · obtain ⟨way, hway, -⟩ := map_eq_some_iff.mp hchoice
    exact absurd ((httpRoutes_ne_nil_of_httpChoice hway).symm.trans hnil) (by decide)

theorem exists_reselect_of_loop {excluded : SelectedBackend → Bool}
    {lastResort : Option SelectedBackend} {moments : List Moment}
    (h : reselectLoop cr s proxy request excluded lastResort moments = some selected) :
    lastResort = some selected ∨
      ∃ moment, reselect cr s proxy request moment = some selected := by
  induction moments generalizing lastResort with
  | nil => exact .inl h
  | cons moment moments ih =>
    obtain ⟨candidate, hcandidate, h⟩ := bind_eq_some_iff.mp h
    split at h
    · rcases ih h with hlast | hlater
      · cases lastResort with
        | none => exact .inr ⟨moment, hcandidate.trans hlast⟩
        | some first => exact .inl hlast
      · exact .inr hlater
    · exact .inr ⟨moment, hcandidate.trans h⟩

theorem exists_reselect {excluded : List TransportRetryExcludedEndpoint} {moments : ℕ → Moment}
    (h : selectBackendWithTransportRetryExclusions cr s proxy request excluded moments
      = some selected) : ∃ moment, reselect cr s proxy request moment = some selected := by
  rw [selectBackendWithTransportRetryExclusions] at h
  split at h
  · exact ⟨_, h⟩
  · rcases exists_reselect_of_loop h with hnone | hmoment
    · cases hnone
    · exact hmoment

theorem tryPrepareRetryWithLimit_forgets {retryLimit : ℕ}
    (h : tryPrepareRetryWithLimit attempt retryLimit ctx = some ctx') :
    ctx'.selectedBackend = none ∧ ctx'.fastSelectedBackend = none := by
  rw [tryPrepareRetryWithLimit] at h
  split at h
  · obtain rfl := Option.some.inj h
    exact ⟨rfl, rfl⟩
  · cases h

theorem tryPrepareTransportRetry_forgets (h : tryPrepareTransportRetry attempt ctx = some ctx') :
    ctx'.selectedBackend = none ∧ ctx'.fastSelectedBackend = none := by
  rw [tryPrepareTransportRetry] at h
  split at h
  · exact tryPrepareRetryWithLimit_forgets h
  · split at h
    · exact tryPrepareRetryWithLimit_forgets h
    · cases h

theorem exists_reselect_of_retryStep (h : retryStep cr s proxy request ctx attempt = some ctx') :
    ∃ moment selected, reselect cr s proxy request moment = some selected ∧
      ctx'.rule = some selected.ruleRef := by
  obtain ⟨prepared, hprepared, h⟩ := bind_eq_some_iff.mp h
  obtain ⟨hselected, hfast⟩ := tryPrepareTransportRetry_forgets hprepared
  rw [doUpstreamPeer, hselected, hfast] at h
  obtain ⟨selected, hreselected, h⟩ := bind_eq_some_iff.mp h
  obtain ⟨moment, hmoment⟩ := exists_reselect hreselected
  split at h
  · cases h
  · obtain rfl := Option.some.inj h
    exact ⟨moment, selected, hmoment, rfl⟩

/-! ## Staying on the rule -/

theorem ruleRef_of_selectedBackendFromHttpRoute {accessLogEnabled : Bool}
    (h : selectedBackendFromHttpRoute route accessLogEnabled = .ok (some selected)) :
    selected.ruleRef = route.ruleRef := by
  rw [selectedBackendFromHttpRoute] at h
  split at h
  · obtain rfl := Option.some.inj (Except.ok.inj h)
    rfl
  · cases h
  · cases h

theorem rule_of_httpRouteEffect {o : Outcomes}
    (h : (retryContext (httpRouteEffect o route {}) request).rule = some rule) :
    rule = route.ruleRef := by
  rw [httpRouteEffect, takeBackend] at h
  split at h
  next selected hselected =>
    obtain rfl := Option.some.inj h
    exact ruleRef_of_selectedBackendFromHttpRoute hselected
  next => cases h

variable (cr s proxy request moments) in
/-- **What keeps the second selection on the rule of the first.** -/
structure KeepsRule : Prop where
  /-- The proxy was told no port, or that of the connection. -/
  port : proxy.requestServerPort request = request.serverPort
  /-- The request was selected by the fast path, or by a route and a match without header
  conditions; not as a gRPC request or by default. -/
  byRoute : ((initialFastPath cr s proxy request moments).isSome = true ∧ request.serverPort ≠ 0) ∨
    ByHttpRoute (initialSelections cr s proxy request moments) ∧
      ∀ way, httpChoice cr s (initialRequestMeta cr s proxy request) = some way →
        way.score.rule.headerCount = 0
  /-- No default backend can step in. -/
  noDefault : s.hasServiceFrontendHttpRouteCandidate (buildRequestMeta cr request) = true ∨
    OnlyIdleFrontends s (buildRequestMeta cr request)

theorem choice_of_forwarded (h : s.Indexed cr) (hkeeps : KeepsRule cr s proxy request moments)
    {crate : IpNetCrate} {o : Outcomes} {st : FilterState}
    (hforwarded : doRequestFilter crate o (initialSelections cr s proxy request moments) {}
      = (.done false, st)) (horiginal : st.isMirrorSubrequest = false)
    (hrule : (retryContext st request).rule = some rule) :
    (httpChoice cr s (buildRequestMeta cr request)).map RouteMatch.ruleRef = some rule := by
  have hstate : (retryContext (forwardedState o (initialSelections cr s proxy request moments))
      request).rule = some rule := by
    rcases forwarded_eq hforwarded horiginal with rfl | rfl <;> exact hrule
  rcases hkeeps.byRoute with ⟨hfast, hknown⟩ | ⟨⟨hfast, hgrpc, hhttp⟩, hfree⟩
  · obtain ⟨selected, hselected⟩ := isSome_iff_exists.mp hfast
    have hforward : forwardedState o (initialSelections cr s proxy request moments)
        = { fastSelectedBackend := some selected } := by
      simp only [forwardedState, initialSelections, hselected]
    rw [hforward] at hstate
    rw [choice_of_fastPath h hkeeps.port hknown hselected]
    exact hstate
  · obtain ⟨route, hroute⟩ := isSome_iff_exists.mp hhttp
    have hforward : forwardedState o (initialSelections cr s proxy request moments)
        = httpRouteEffect o route {} := by
      simp only [forwardedState, hfast, hgrpc, hroute]
    rw [hforward] at hstate
    rw [rule_of_httpRouteEffect hstate]
    exact choice_of_httpRoute hkeeps.port hfree hroute

theorem rule_of_retryRun
    (hstep : ∀ ctx ctx' attempt, retryStep cr s proxy request ctx attempt = some ctx' →
      ctx'.rule = some rule) (hcontext : ctx.rule = some rule) {attempts : List RetryAttempt}
    (hrun : retryRun cr s proxy request ctx attempts = some ctx') : ctx'.rule = some rule := by
  induction attempts generalizing ctx with
  | nil =>
    obtain rfl := Option.some.inj hrun
    exact hcontext
  | cons attempt attempts ih =>
    obtain ⟨next, hnext, hrun⟩ := bind_eq_some_iff.mp hrun
    exact ih (hstep ctx next attempt hnext) hrun

/-- A request whose method may not be replayed is not retried. -/
theorem retryRun_of_not_replayable (hreplay : requestIsRetryReplayable ctx = false)
    {attempts : List RetryAttempt} (hrun : retryRun cr s proxy request ctx attempts = some ctx') :
    ctx' = ctx := by
  cases attempts with
  | nil => exact (Option.some.inj hrun).symm
  | cons attempt attempts =>
    obtain ⟨next, hnext, -⟩ := bind_eq_some_iff.mp hrun
    obtain ⟨prepared, hprepared, -⟩ := bind_eq_some_iff.mp hnext
    have hlimit : ∀ retryLimit, tryPrepareRetryWithLimit attempt retryLimit ctx = none := by
      intro retryLimit
      rw [tryPrepareRetryWithLimit, hreplay]
      rfl
    rw [tryPrepareTransportRetry] at hprepared
    split at hprepared
    · cases (hlimit _).symm.trans hprepared
    · split at hprepared
      · cases (hlimit _).symm.trans hprepared
      · cases hprepared

end

/-- **Retries stay on the rule.** A request that may be retried and matched without header
conditions, on the port of its connection and where no default backend can step in, is served by
its rule after any number of retries. -/
theorem retry_keeps_rule (cr : Crates) (s : Snapshot) (proxy : GatewayProxy)
    (request : DownstreamRequest) (moments : InitialMoments)
    (hkeeps : requestIsRetryReplayable { method := request.method } = true →
      KeepsRule cr (s.rebuildRuntimeIndexes cr) proxy request moments) (crate : IpNetCrate)
    (o : Outcomes) (st : FilterState)
    (hforwarded : doRequestFilter crate o
      (initialSelections cr (s.rebuildRuntimeIndexes cr) proxy request moments) {}
        = (.done false, st))
    (horiginal : st.isMirrorSubrequest = false) (rule : RuleRef)
    (hrule : (retryContext st request).rule = some rule) (attempts : List RetryAttempt)
    (ctx : RetryContext)
    (hrun : retryRun cr (s.rebuildRuntimeIndexes cr) proxy request
      (retryContext st request) attempts = some ctx) : ctx.rule = some rule := by
  have hindexed := indexed_rebuild cr s
  cases hreplay : requestIsRetryReplayable (retryContext st request) with
  | false =>
    rw [retryRun_of_not_replayable hreplay hrun]
    exact hrule
  | true =>
    have hkeeps := hkeeps hreplay
    have hchoice := choice_of_forwarded hindexed hkeeps hforwarded horiginal hrule
    refine rule_of_retryRun (fun ctx ctx' attempt hstep => ?_) hrule hrun
    obtain ⟨moment, selected, hselected, hcontext'⟩ := exists_reselect_of_retryStep hstep
    rw [hcontext', ruleRef_of_reselect hindexed hkeeps.noDefault hchoice hselected]

private def serviceCluster (name address : String) : BackendCluster :=
  { name := name ++ ":8080"
    «namespace» := "default"
    endpoints := [{ address := address, port := 8080, healthy := true }] }

private def canarySnapshot («matches» : List HttpMatch) : Snapshot :=
  { listeners :=
      [{ name := "http", port := 80, protocol := "HTTP", attachedRoutes := ["default/web"] }]
    httpRoutes :=
      [{ name := "web"
         «namespace» := "default"
         rules :=
          [{ «matches» := «matches»
             backendRefs := [{ «namespace» := "default", name := "canary", port := 8080 }] },
           { backendRefs := [{ «namespace» := "default", name := "stable", port := 8080 }] }] }]
    backends := [serviceCluster "canary" "10.0.0.1", serviceCluster "stable" "10.0.0.2"] }

private def rulesAroundRetry (s : Snapshot) (request : DownstreamRequest) :
    Option (Option RuleRef × Option (Option RuleRef)) :=
  match doRequestFilter cidrBlocks {} (initialSelections inertCrates
    (s.rebuildRuntimeIndexes inertCrates) {} request {}) {} with
  | (.done false, st) =>
    if st.isMirrorSubrequest then none
    else
      some ((retryContext st request).rule,
        (retryRun inertCrates (s.rebuildRuntimeIndexes inertCrates) {} request
          (retryContext st request) [{}]).map RetryContext.rule)
  | _ => none

/-- **A request for the canary is retried on the other rule.** -/
theorem retry_moves_to_other_rule :
    rulesAroundRetry (canarySnapshot [{ headers := [{ name := "x-env", value := "canary" }] }])
        { headers := ⟨[("x-env", ["canary"])], List.pairwise_singleton _ _⟩, serverPort := 80 }
      = some (some ⟨.http, "default", "web", some 0⟩,
          some (some ⟨.http, "default", "web", some 1⟩)) := by
  decide +kernel

private def canaryPathRequest : DownstreamRequest := { path := "/canary", serverPort := 80 }

private def canaryPathSnapshot : Snapshot :=
  (canarySnapshot [{ path := "/canary", pathType := "PathPrefix" }]).rebuildRuntimeIndexes
    inertCrates

private theorem keepsRule_canaryPath :
    KeepsRule inertCrates canaryPathSnapshot {} canaryPathRequest {} where
  port := rfl
  byRoute := .inl (by decide +kernel)
  noDefault := .inr (by decide +kernel)

theorem retry_keeps_rule_canaryPath :
    ∃ st ctx, doRequestFilter cidrBlocks {}
        (initialSelections inertCrates canaryPathSnapshot {} canaryPathRequest {}) {}
          = (.done false, st) ∧
      retryRun inertCrates canaryPathSnapshot {} canaryPathRequest
        (retryContext st canaryPathRequest) [{}] = some ctx ∧
      ctx.rule = some ⟨.http, "default", "web", some 0⟩ := by
  have hrun : ∃ st, doRequestFilter cidrBlocks {}
        (initialSelections inertCrates canaryPathSnapshot {} canaryPathRequest {}) {}
          = (.done false, st) ∧ st.isMirrorSubrequest = false ∧
      (retryContext st canaryPathRequest).rule = some ⟨.http, "default", "web", some 0⟩ ∧
      (retryRun inertCrates canaryPathSnapshot {} canaryPathRequest
        (retryContext st canaryPathRequest) [{}]).isSome = true := by
    refine ⟨_, Prod.ext (by decide +kernel) rfl, ?_, ?_, ?_⟩ <;> decide +kernel
  obtain ⟨st, hforwarded, horiginal, hrule, hretried⟩ := hrun
  obtain ⟨ctx, hcontext⟩ := isSome_iff_exists.mp hretried
  exact ⟨st, ctx, hforwarded, hcontext, retry_keeps_rule inertCrates _ {} canaryPathRequest {}
    (fun _ => keepsRule_canaryPath) cidrBlocks {} st hforwarded horiginal _ hrule [{}] ctx hcontext⟩

end NantianGateway.Http
