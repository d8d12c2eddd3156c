import NantianGateway.Http.RequestSelection
import NantianGateway.Ir.IndexTransparency

/-!
# Leaving out headers and the source address

Where the hints of the rebuild say no, `build_selection_request_meta` keeps only the content types
of a gRPC request, and no address.  What a selection reads of a request besides is collected in
`ReadAlike`.  Each reader is one lemma; the hints enter only at the end.
-/

namespace NantianGateway

open Text Snapshot List Option

def contentTypeHeaders (headers : BTreeMap (List String)) : BTreeMap (List String) :=
  ⟨headers.entries.filter fun entry => entry.1 = "content-type", headers.sorted.filter _⟩

/-! ## What a selection reads -/

/-- **Two requests, with the sessions found in their headers, that a snapshot reads alike.** -/
structure ReadAlike (cr : Crates) (s : Snapshot) (request request' : RequestMeta)
    (resolver resolver' : SessionPersistence → Option PersistentSessionTarget) : Prop where
  host : request.host = request'.host
  port : request.port = request'.port
  path : request.path = request'.path
  method : request.method = request'.method
  queryParams : request.queryParams = request'.queryParams
  grpc : isGrpcRequest request = isGrpcRequest request'
  httpHeaders : ∀ route ∈ s.httpRoutes, ∀ rule ∈ route.rules, ∀ matcher ∈ rule.matches,
    matchesHeaders cr matcher.headers request.headers
      = matchesHeaders cr matcher.headers request'.headers
  grpcHeaders : ∀ route ∈ s.grpcRoutes, ∀ rule ∈ route.rules, ∀ matcher ∈ rule.matches,
    matchesHeaders cr matcher.headers request.headers
      = matchesHeaders cr matcher.headers request'.headers
  httpSessions : ∀ route ∈ s.httpRoutes, ∀ rule ∈ route.rules,
    rule.sessionPersistence.bind resolver = rule.sessionPersistence.bind resolver'
  grpcSessions : ∀ route ∈ s.grpcRoutes, ∀ rule ∈ route.rules,
    rule.sessionPersistence.bind resolver = rule.sessionPersistence.bind resolver'
  policySessions : ∀ backendName, (s.backendSessionPersistence backendName).bind resolver
      = (s.backendSessionPersistence backendName).bind resolver'
  hashKeys : ∀ backendName policy, s.backendLoadBalancing backendName = some policy →
    policy.policyType = "ConsistentHash" →
      consistentHashKey policy request = consistentHashKey policy request'
  source : s.sourceNamespace request = s.sourceNamespace request'

namespace ReadAlike

variable {cr : Crates} {s : Snapshot} {request request' : RequestMeta}
  {resolver resolver' : SessionPersistence → Option PersistentSessionTarget} {now : Instant}

/-! ## Resolving the references of a rule -/

theorem resolve_eq (h : ReadAlike cr s request request' resolver resolver') (refs : List BackendRef)
    {routeSession : Option SessionPersistence}
    (hsession : routeSession.bind resolver = routeSession.bind resolver') :
    s.resolveHttpBackendRefsWithSession refs routeSession request resolver now
      = s.resolveHttpBackendRefsWithSession refs routeSession request' resolver' now :=
  (AlikeAt.of_health fun _ _ => rfl).resolve_congr hsession h.policySessions h.hashKeys

/-! ## The selections -/

section

variable (h : ReadAlike cr s request request' resolver resolver')

include h

theorem bestHttpRuleMatch_eq {route : HttpRoute} (hroute : route ∈ s.httpRoutes) {rule : HttpRule}
    (hrule : rule ∈ route.rules) :
    bestHttpRuleMatch cr rule request = bestHttpRuleMatch cr rule request' := by
  have hfilter : (rule.matches.filter fun matcher => matchesHttpRule cr matcher request)
      = rule.matches.filter fun matcher => matchesHttpRule cr matcher request' := by
    refine filter_congr fun matcher hmatcher => ?_
    rw [matchesHttpRule, matchesHttpRule, matchesHttpPath, matchesHttpPath, h.path, h.method,
      h.queryParams, h.httpHeaders route hroute rule hrule matcher hmatcher]
  rw [bestHttpRuleMatch, bestHttpRuleMatch, hfilter]

theorem bestGrpcRuleMatch_eq {route : GrpcRoute} (hroute : route ∈ s.grpcRoutes) {rule : GrpcRule}
    (hrule : rule ∈ route.rules) (grpc : Option GrpcPath) :
    bestGrpcRuleMatch cr rule request grpc = bestGrpcRuleMatch cr rule request' grpc := by
  have hfilter : (rule.matches.filter fun matcher => matchesGrpcRule cr matcher request grpc)
      = rule.matches.filter fun matcher => matchesGrpcRule cr matcher request' grpc := by
    refine filter_congr fun matcher hmatcher => ?_
    unfold matchesGrpcRule
    rw [h.grpcHeaders route hroute rule hrule matcher hmatcher]
  rw [bestGrpcRuleMatch, bestGrpcRuleMatch, hfilter]

theorem httpContexts_eq : s.httpRuleContexts request = s.httpRuleContexts request' := by
  have hgate : s.httpRouteGate request = s.httpRouteGate request' := by
    funext route
    rw [httpRouteGate, httpRouteGate, h.host, h.port]
  rw [httpRuleContexts, httpRuleContexts, h.host, hgate]

theorem grpcContexts_eq : s.grpcRuleContexts request = s.grpcRuleContexts request' := by
  have hgate : s.grpcRouteGate request = s.grpcRouteGate request' := by
    funext route
    rw [grpcRouteGate, grpcRouteGate, h.host, h.port]
  rw [grpcRuleContexts, grpcRuleContexts, h.host, hgate]

theorem selectHttpRoute_eq (hs : s.Indexed cr) (st : SelectionState) :
    selectHttpRoute cr s request resolver now st
      = selectHttpRoute cr s request' resolver' now st := by
  have hmake : ∀ context ∈ s.httpRuleContexts request',
      httpRuleCandidate cr s request resolver now context
        = httpRuleCandidate cr s request' resolver' now context := by
    intro context hcontext
    obtain ⟨hroute, hpos, -⟩ := of_mem_contexts (Snapshot.httpContexts_eq hs.coherent _ ▸ hcontext)
    have hrule := List.fst_mem_of_mem_zipIdx hpos
    funext st
    rw [httpRuleCandidate, httpRuleCandidate, h.bestHttpRuleMatch_eq hroute hrule,
      h.resolve_eq _ (h.httpSessions context.route hroute context.rule hrule)]
  rw [selectHttpRoute, selectHttpRoute, h.httpContexts_eq,
    Best.foldl_scanStep_ext hmake, h.host, h.port]

theorem selectGrpcBackend_eq (hs : s.Indexed cr) (st : SelectionState) :
    selectGrpcBackend cr s request resolver now st
      = selectGrpcBackend cr s request' resolver' now st := by
  have hmake : ∀ context ∈ s.grpcRuleContexts request',
      grpcRuleCandidate cr s request resolver now context
        = grpcRuleCandidate cr s request' resolver' now context := by
    intro context hcontext
    obtain ⟨hroute, hpos, -⟩ := of_mem_contexts (Snapshot.grpcContexts_eq hs.coherent _ ▸ hcontext)
    have hrule := List.fst_mem_of_mem_zipIdx hpos
    funext st
    rw [grpcRuleCandidate, grpcRuleCandidate, h.path, h.bestGrpcRuleMatch_eq hroute hrule,
      h.resolve_eq _ (h.grpcSessions context.route hroute context.rule hrule)]
  rw [selectGrpcBackend, selectGrpcBackend, h.grpc, h.grpcContexts_eq,
    Best.foldl_scanStep_ext hmake, h.host, h.port]

theorem requestServiceFrontendRef_eq :
    s.requestServiceFrontendRef request = s.requestServiceFrontendRef request' := by
  rw [requestServiceFrontendRef, requestServiceFrontendRef, h.port, h.host, h.source]

theorem selectDefault_eq (st : SelectionState) : s.selectListenerDefaultBackend request now st
      = s.selectListenerDefaultBackend request' now st := by
  simp only [selectListenerDefaultBackend, selectListenerDefaultBackendFromIndices,
    selectListenerDefaultBackendSlowPath, h.port]

theorem selectBackend_eq (hs : s.Indexed cr) (st : SelectionState) :
    selectBackend cr s request resolver now st = selectBackend cr s request' resolver' now st := by
  have htargets : s.requestTargetsMeshServiceFrontend request
      = s.requestTargetsMeshServiceFrontend request' := by
    rw [requestTargetsMeshServiceFrontend, requestTargetsMeshServiceFrontend,
      h.requestServiceFrontendRef_eq]
  have hlisteners : ∀ kind, s.matchesServiceFrontendListener request kind
      = s.matchesServiceFrontendListener request' kind := by
    intro kind
    rw [matchesServiceFrontendListener, matchesServiceFrontendListener, h.host, h.port]
  have hhttp : s.hasServiceFrontendHttpRouteCandidate request
      = s.hasServiceFrontendHttpRouteCandidate request' := by
    simp only [hasServiceFrontendHttpRouteCandidate,
      hasServiceFrontendRouteCandidate, h.host, h.port]
  have hgrpc : s.hasServiceFrontendGrpcRouteCandidate request
      = s.hasServiceFrontendGrpcRouteCandidate request' := by
    simp only [hasServiceFrontendGrpcRouteCandidate,
      hasServiceFrontendRouteCandidate, h.host, h.port]
  simp only [selectBackend, selectHttpBackend, htargets, hlisteners, hhttp, hgrpc, h.grpc,
    h.selectGrpcBackend_eq hs, h.selectHttpRoute_eq hs, h.selectDefault_eq]

end

end ReadAlike

/-! ## What the hints promise -/

section

variable {cr : Crates} {s : Snapshot}

theorem Snapshot.Indexed.no_headers (h : s.Indexed cr)
    (hhint : s.requestMaterialization.requiresFullHeaders = false) :
    (∀ route ∈ s.httpRoutes, ∀ rule ∈ route.rules,
      rule.sessionPersistence = none ∧ ∀ matcher ∈ rule.matches, matcher.headers = []) ∧
    (∀ route ∈ s.grpcRoutes, ∀ rule ∈ route.rules,
      rule.sessionPersistence = none ∧ ∀ matcher ∈ rule.matches, matcher.headers = []) ∧
    ∀ policy ∈ s.backendPolicies.values,
      policy.sessionPersistence = none ∧ hashesOn "Header" policy = false := by
  rw [h.requestMaterialization, RequestMaterializationHints.requiresFullHeaders,
    buildRequestMaterializationHints] at hhint
  simp only [Bool.or_eq_false_iff, List.any_eq_false, List.any_eq_true, not_exists, not_and,
    Bool.not_eq_true, Bool.not_eq_false', List.isEmpty_iff, isSome_eq_false_iff,
    isNone_iff_eq_none] at hhint
  obtain ⟨⟨⟨hhttp, hgrpc⟩, ⟨hhttpSessions, hgrpcSessions⟩, hpolicies⟩, hhash⟩ := hhint
  exact ⟨fun route hroute rule hrule => ⟨hhttpSessions route hroute rule hrule,
      hhttp route hroute rule hrule⟩,
    fun route hroute rule hrule =>
      ⟨hgrpcSessions route hroute rule hrule, hgrpc route hroute rule hrule⟩,
    fun policy hpolicy => ⟨hpolicies policy hpolicy, hhash policy hpolicy⟩⟩

theorem Snapshot.Indexed.no_sourceIp (h : s.Indexed cr)
    (hhint : s.requestMaterialization.sourceIp = false) :
    s.workloads = [] ∧ ∀ policy ∈ s.backendPolicies.values, hashesOn "SourceIP" policy = false := by
  rw [h.requestMaterialization, buildRequestMaterializationHints] at hhint
  simp only [Bool.or_eq_false_iff, List.any_eq_false, Bool.not_eq_true, Bool.not_eq_false',
    List.isEmpty_iff] at hhint
  exact ⟨hhint.2, hhint.1⟩

theorem Snapshot.keyType_ne {keyType backendName : String} {policy : LoadBalancingPolicy}
    {hash : ConsistentHashPolicy}
    (hnone : ∀ policy ∈ s.backendPolicies.values, hashesOn keyType policy = false)
    (hpolicy : s.backendLoadBalancing backendName = some policy)
    (htype : policy.policyType = "ConsistentHash") (hhash : policy.consistentHash = some hash) :
    hash.keyType ≠ keyType := by
  obtain ⟨backendPolicy, hget, hbalancing⟩ := bind_eq_some_iff.mp hpolicy
  have hfalse := hnone backendPolicy (BTreeMap.mem_values_of_get hget)
  rw [hashesOn, hbalancing, filter_some, if_pos (decide_eq_true htype), bind_some,
    hhash, any_some, beq_eq_false_iff_ne] at hfalse
  exact hfalse

theorem Snapshot.backendSessionPersistence_eq_none
    (hnone : ∀ policy ∈ s.backendPolicies.values, policy.sessionPersistence = none)
    (backendName : String) : s.backendSessionPersistence backendName = none := by
  rw [backendSessionPersistence, bind_eq_none_iff]
  intro policy hpolicy
  exact hnone policy (BTreeMap.mem_values_of_get hpolicy)

theorem Snapshot.Indexed.sourceNamespace_eq_none (h : s.Indexed cr) (hwork : s.workloads = [])
    (request : RequestMeta) : s.sourceNamespace request = none := by
  rw [sourceNamespace, bind_eq_none_iff]
  intro sourceIp _
  rw [h.ready, if_pos rfl, h.workloadNamespaceIndex, hwork]
  rfl

variable (request : RequestMeta)
  (resolve : BTreeMap (List String) → SessionPersistence → Option PersistentSessionTarget)

theorem readAlike_headers (h : s.Indexed cr)
    (hhint : s.requestMaterialization.requiresFullHeaders = false)
    {kept : BTreeMap (List String)}
    (hkept : isGrpcRequest { request with headers := kept } = isGrpcRequest request) :
    ReadAlike cr s { request with headers := kept } request (resolve kept)
      (resolve request.headers) := by
  obtain ⟨hhttp, hgrpc, hpolicies⟩ := h.no_headers hhint
  have hsession := backendSessionPersistence_eq_none fun policy hpolicy =>
    (hpolicies policy hpolicy).1
  refine ⟨rfl, rfl, rfl, rfl, rfl, hkept, ?_, ?_, ?_, ?_, ?_, ?_, rfl⟩
  · intro route hroute rule hrule matcher hmatcher
    rw [(hhttp route hroute rule hrule).2 matcher hmatcher]
    rfl
  · intro route hroute rule hrule matcher hmatcher
    rw [(hgrpc route hroute rule hrule).2 matcher hmatcher]
    rfl
  · intro route hroute rule hrule
    rw [(hhttp route hroute rule hrule).1]
    rfl
  · intro route hroute rule hrule
    rw [(hgrpc route hroute rule hrule).1]
    rfl
  · intro backendName
    rw [hsession]
    rfl
  · intro backendName policy hpolicy htype
    refine Option.bind_congr fun hash hhash => ?_
    have hkey := keyType_ne (fun policy hpolicy => (hpolicies policy hpolicy).2) hpolicy htype hhash
    split
    · rfl
    · next hheader => exact absurd hheader hkey
    · rfl
    · rfl

theorem readAlike_sourceIp (h : s.Indexed cr) (hhint : s.requestMaterialization.sourceIp = false)
    (resolver : SessionPersistence → Option PersistentSessionTarget) :
    ReadAlike cr s { request with sourceIp := none } request resolver resolver := by
  obtain ⟨hwork, hpolicies⟩ := h.no_sourceIp hhint
  refine ⟨rfl, rfl, rfl, rfl, rfl, rfl, fun _ _ _ _ _ _ => rfl, fun _ _ _ _ _ _ => rfl,
    fun _ _ _ _ => rfl, fun _ _ _ _ => rfl, fun _ => rfl, ?_, ?_⟩
  · intro backendName policy hpolicy htype
    refine Option.bind_congr fun hash hhash => ?_
    have hkey := keyType_ne hpolicies hpolicy htype hhash
    split
    · next haddress => exact absurd haddress hkey
    · rfl
    · rfl
    · rfl
  · rw [h.sourceNamespace_eq_none hwork, h.sourceNamespace_eq_none hwork]

theorem isGrpcRequest_grpcContentTypeHeaders :
    isGrpcRequest { request with headers := Http.grpcContentTypeHeaders request.headers }
      = isGrpcRequest request := by
  rw [isGrpcRequest, isGrpcRequest, Http.grpcContentTypeHeaders]
  cases hget : request.headers.get "content-type" with
  | none => rfl
  | some values =>
    rw [getD_some, any_some]
    split
    next hnone =>
      -- none of the content types is one of gRPC
      rw [filter_eq_nil_iff] at hnone
      exact (List.any_eq_false.mpr hnone).symm
    next hsome =>
      show ((values.filter fun value => startsWith value "application/grpc").any fun value =>
        startsWith value "application/grpc") = _
      rw [List.any_filter]
      simp only [Bool.and_self]

theorem isGrpcRequest_contentTypeHeaders :
    isGrpcRequest { request with headers := contentTypeHeaders request.headers }
      = isGrpcRequest request := by
  have hget : (contentTypeHeaders request.headers).get "content-type"
      = request.headers.get "content-type" := by
    rw [BTreeMap.get, BTreeMap.get, contentTypeHeaders, List.find?_filter]
    simp only [and_self, decide_eq_true_eq]
  rw [isGrpcRequest, isGrpcRequest, hget]

end

/-! ## The hints -/

/-- **The hints are sound.**  Without the hint for headers, the selections and tickets are those
made from the content types alone; without the hint for the address, they do not depend on it. -/
theorem materializationHints_sound (cr : Crates) (s : Snapshot) (h : s.Indexed cr)
    (request : RequestMeta)
    (resolve : BTreeMap (List String) → SessionPersistence → Option PersistentSessionTarget)
    (now : Instant) (st : SelectionState) :
    (s.requestMaterialization.requiresFullHeaders = false →
      ∀ kept ∈ [Http.grpcContentTypeHeaders request.headers, contentTypeHeaders request.headers],
        selectGrpcBackend cr s { request with headers := kept } (resolve kept) now st
            = selectGrpcBackend cr s request (resolve request.headers) now st ∧
        selectHttpRoute cr s { request with headers := kept } (resolve kept) now st
            = selectHttpRoute cr s request (resolve request.headers) now st ∧
        selectBackend cr s { request with headers := kept } (resolve kept) now st
            = selectBackend cr s request (resolve request.headers) now st) ∧
    (s.requestMaterialization.sourceIp = false →
      selectGrpcBackend cr s { request with sourceIp := none } (resolve request.headers) now st
          = selectGrpcBackend cr s request (resolve request.headers) now st ∧
      selectHttpRoute cr s { request with sourceIp := none } (resolve request.headers) now st
          = selectHttpRoute cr s request (resolve request.headers) now st ∧
      selectBackend cr s { request with sourceIp := none } (resolve request.headers) now st
          = selectBackend cr s request (resolve request.headers) now st) := by
  refine ⟨fun hhint kept hkept => ?_, fun hhint => ?_⟩
  · have hgrpc : isGrpcRequest { request with headers := kept } = isGrpcRequest request := by
      rcases mem_pair.mp hkept with rfl | rfl
      · exact isGrpcRequest_grpcContentTypeHeaders request
      · exact isGrpcRequest_contentTypeHeaders request
    have halike := readAlike_headers request resolve h hhint hgrpc
    exact ⟨halike.selectGrpcBackend_eq h st, halike.selectHttpRoute_eq h st,
      halike.selectBackend_eq h st⟩
  · have halike := readAlike_sourceIp request h hhint (resolve request.headers)
    exact ⟨halike.selectGrpcBackend_eq h st, halike.selectHttpRoute_eq h st,
      halike.selectBackend_eq h st⟩

theorem materializationHints_sound_oneRule :
    let s := (oneRuleSnapshot { «namespace» := "default", name := "app", port := 8080 }
      "default" "app:8080").rebuildRuntimeIndexes inertCrates
    let request : RequestMeta :=
      { port := 80
        path := "/"
        method := "GET"
        sourceIp := some "10.9.9.9"
        headers := (BTreeMap.empty.push "content-type" "text/plain").push "cookie" "session=1" }
    s.requestMaterialization.requiresFullHeaders = false ∧
      s.requestMaterialization.sourceIp = false ∧
      (selectHttpRoute inertCrates s request (fun _ => none) 0 {}).1.map
          (fun route => route.backendName) = some (some "default/app:8080") ∧
      (selectHttpRoute inertCrates s
        { request with headers := Http.grpcContentTypeHeaders request.headers }
          (fun _ => none) 0 {}).1.map (fun route => route.backendName)
        = some (some "default/app:8080") ∧
      (selectBackend inertCrates s { request with sourceIp := none } (fun _ => none) 0 {}).1
        = (selectBackend inertCrates s request (fun _ => none) 0 {}).1 := by
  intro s request
  have hheaders : s.requestMaterialization.requiresFullHeaders = false := by decide +kernel
  have hsource : s.requestMaterialization.sourceIp = false := by decide +kernel
  have hselected : (selectHttpRoute inertCrates s request (fun _ => none) 0 {}).1.map
      (fun route => route.backendName) = some (some "default/app:8080") := by decide +kernel
  have hsound := materializationHints_sound inertCrates s
    (indexed_rebuild inertCrates _) request (fun _ _ => none) 0 {}
  obtain ⟨-, hhttp, -⟩ := hsound.1 hheaders _ mem_cons_self
  obtain ⟨-, -, hbackend⟩ := hsound.2 hsource
  exact ⟨hheaders, hsource, hselected, by rw [hhttp]; exact hselected, by rw [hbackend]⟩

end NantianGateway
