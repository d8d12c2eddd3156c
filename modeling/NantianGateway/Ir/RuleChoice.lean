import NantianGateway.Ir.BackendSelection
import NantianGateway.Ir.FastPathRefinement
import NantianGateway.Ir.RoutePrecedence

/-!
# The rule that serves a request

A rule is passed over only if none of its references carries weight and none of its filters answers
for it.  So **the choice is a function of the configuration and of what the matches read in the
request**, and without headers it can only move if the chosen rule was chosen by a match with header
conditions.
-/

namespace NantianGateway

open Text List Option Snapshot

/-! ## Admissible rules -/

namespace Snapshot

variable {s : Snapshot} {now : Instant} {refs : List BackendRef}

section

variable (h : ∀ backendRef ∈ refs, backendRef.weight = 0)

include h

theorem persistent_of_weightless (target : PersistentSessionTarget)
    (sessionPersistence : Option SessionPersistence) :
    s.resolvePersistentHttpBackend now target sessionPersistence refs = none := by
  induction refs with
  | nil => rfl
  | cons backendRef refs ih =>
    rw [resolvePersistentHttpBackend, if_pos (.inl (h _ mem_cons_self))]
    exact ih fun backendRef hmem => h backendRef (mem_cons_of_mem _ hmem)

theorem policyPersistent_of_weightless
    (sessionResolver : SessionPersistence → Option PersistentSessionTarget) :
    s.resolveBackendPolicyPersistentHttpBackend now refs sessionResolver = none := by
  rw [resolveBackendPolicyPersistentHttpBackend, List.findSome?_eq_none_iff]
  exact fun backendRef hmem => if_pos (.inl (h backendRef hmem))

theorem visitHttpBackendCandidates_of_weightless :
    s.httpBackendCandidates refs now = [] ∧ s.visitHttpBackendCandidates refs now = {} := by
  have hskip : ∀ backendRef ∈ refs, s.httpBackendCandidate now backendRef = .skipped :=
    fun backendRef hmem => by rw [httpBackendCandidate, if_pos (h backendRef hmem)]
  constructor
  · rw [httpBackendCandidates, filterMap_eq_nil_iff]
    intro backendRef hmem
    rw [hskip backendRef hmem]
    rfl
  · rw [visitHttpBackendCandidates]
    clear h
    induction refs with
    | nil => rfl
    | cons backendRef refs ih =>
      rw [foldl_cons, visitStep, hskip _ mem_cons_self]
      exact ih fun backendRef hmem => hskip backendRef (mem_cons_of_mem _ hmem)

end

theorem httpCandidate_ne_skipped {backendRef : BackendRef} (h : backendRef.weight ≠ 0) :
    s.httpBackendCandidate now backendRef ≠ .skipped := by
  rw [httpBackendCandidate, if_neg h]
  intro hskip
  split at hskip
  · cases hskip
  · split at hskip
    · cases hskip
    · dsimp only at hskip
      split at hskip <;> cases hskip

theorem foldl_visitStep_error
    (hnone : ∀ backendRef ∈ refs, (s.httpBackendCandidate now backendRef).toOption = none)
    {outcome : BackendCandidateVisit}
    (h : outcome.error.isSome = true ∨ ∃ backendRef ∈ refs, backendRef.weight ≠ 0) :
    (refs.foldl (s.visitStep now) outcome).error.isSome = true := by
  induction refs generalizing outcome with
  | nil => simpa using h
  | cons backendRef refs ih =>
    rw [forall_mem_cons] at hnone
    rw [foldl_cons]
    refine ih hnone.2 ?_
    rw [visitStep]
    cases hvisit : s.httpBackendCandidate now backendRef with
    | skipped =>
      rcases h with h | ⟨ref, hmem, hweight⟩
      · exact .inl h
      · rcases mem_cons.mp hmem with rfl | hmem
        · exact absurd hvisit (httpCandidate_ne_skipped hweight)
        · exact .inr ⟨ref, hmem, hweight⟩
    | invalid => exact .inl (by simp [BackendCandidateVisit.error]; split <;> simp)
    | unhealthy => exact .inl (by simp [BackendCandidateVisit.error])
    | candidate candidate => rw [hvisit] at hnone; cases hnone.1

theorem visitHttpBackendCandidates_error (hnone : s.httpBackendCandidates refs now = [])
    (h : ∃ backendRef ∈ refs, backendRef.weight ≠ 0) :
    (s.visitHttpBackendCandidates refs now).error.isSome = true :=
  foldl_visitStep_error (filterMap_eq_nil_iff.mp hnone) (.inr h)

theorem ruleAdmissible_eq (request : RequestMeta)
    (sessionResolver : SessionPersistence → Option PersistentSessionTarget) (rule : HttpRule) :
    s.ruleAdmissible now request sessionResolver rule
      = (httpRuleHasSelectableBackend rule || hasNonBackendHttpFilter rule.filters) := by
  rw [ruleAdmissible, fixedResolution]
  cases hoff : httpRuleHasSelectableBackend rule with
  | false =>
    have hweightless : ∀ backendRef ∈ rule.backendRefs, backendRef.weight = 0 := by
      simpa [httpRuleHasSelectableBackend] using hoff
    obtain ⟨hnone, hvisit⟩ :=
      @visitHttpBackendCandidates_of_weightless s now _ hweightless
    simp only [persistent_of_weightless hweightless, bind_fun_none,
      policyPersistent_of_weightless hweightless, ite_self, if_pos hnone, hvisit]
    simp [admissibleResolution, BackendCandidateVisit.error]
  | true =>
    have hweight : ∃ backendRef ∈ rule.backendRefs, backendRef.weight ≠ 0 := by
      simpa [httpRuleHasSelectableBackend] using hoff
    split
    next resolution hfixed =>
      suffices h : resolution.selected.isSome = true ∨ resolution.error.isSome = true by
        simp only [admissibleResolution, Bool.or_eq_true, Bool.true_or]
        exact .inl h
      split at hfixed
      · obtain rfl := Option.some.inj hfixed
        exact .inl rfl
      · split at hfixed
        · obtain rfl := Option.some.inj hfixed
          exact .inl rfl
        · split at hfixed
          next hnone =>
            obtain rfl := Option.some.inj hfixed
            exact .inr (visitHttpBackendCandidates_error hnone hweight)
          next =>
            obtain ⟨selected, -, rfl⟩ := map_eq_some_iff.mp hfixed
            exact .inl rfl
    next => rfl

end Snapshot

/-! ## The choice -/

/-- A rule of a route, by name. -/
structure RuleRef where
  routeKind : RouteKind
  routeNamespace : String
  routeName : String
  ruleIndex : Option ℕ
  deriving DecidableEq

def SelectedBackend.ruleRef (selected : SelectedBackend) : RuleRef :=
  ⟨selected.routeKind, selected.routeNamespace, selected.routeName, selected.ruleIndex⟩

def SelectedHttpRoute.ruleRef (route : SelectedHttpRoute) : RuleRef :=
  ⟨.http, route.routeNamespace, route.routeName, route.ruleIndex⟩

def CompiledSelectedHttpBackend.ruleRef (selected : CompiledSelectedHttpBackend) : RuleRef :=
  ⟨.http, selected.routeNamespace, selected.routeName, selected.ruleIndex⟩

def RouteMatch.ruleRef (way : RouteMatch) : RuleRef :=
  ⟨.http, way.route.namespace, way.route.name, some way.ruleIndex⟩

theorem SelectedHttpRoute.ruleRef_of_intoBackend {route : SelectedHttpRoute}
    {selected : SelectedBackend} (h : route.intoBackend = some selected) :
    selected.ruleRef = route.ruleRef := by
  obtain ⟨backend, -, h⟩ := bind_eq_some_iff.mp h
  obtain ⟨backendName, -, rfl⟩ := map_eq_some_iff.mp h
  rfl

section

variable (cr : Crates) (s : Snapshot) (request : RequestMeta)
  (context : RuleContext HttpRoute HttpRule)

/-- The best way in which a rule accepts the request, if it can be chosen at all. -/
def ruleWay : Option RouteMatch :=
  if httpRuleHasSelectableBackend context.rule || hasNonBackendHttpFilter context.rule.filters then
    (bestHttpRuleMatch cr context.rule request).map fun best =>
      ⟨context.route, context.routeIndex, context.rule, context.ruleIndex, best.1,
        ⟨context.listenerHost, context.routeHost, best.2⟩⟩
  else none

/-- The rule a request is served by: the first of the best. -/
def httpChoice : Option RouteMatch :=
  ((s.httpRuleContexts request).filterMap (ruleWay cr request)).argmax RouteMatch.score

variable {cr s request} {sessionResolver : SessionPersistence → Option PersistentSessionTarget}
  {now : Instant}

theorem contextWay_eq_ruleWay :
    contextWay cr s request sessionResolver now context = ruleWay cr request context := by
  rw [contextWay, ruleWay, Snapshot.ruleAdmissible_eq]

theorem exists_candidate_of_ruleWay {context : RuleContext HttpRoute HttpRule} {way : RouteMatch}
    (hway : ruleWay cr request context = some way)
    (sessionResolver : SessionPersistence → Option PersistentSessionTarget) (now : Instant)
    (st : SelectionState) :
    ∃ candidate, (httpRuleCandidate cr s request sessionResolver now context st).1
      = some candidate ∧ candidate.way = way := by
  rw [ruleWay] at hway
  rw [httpRuleCandidate_fst, Snapshot.ruleAdmissible_eq]
  split at hway
  next hoff =>
    obtain ⟨best, hbest, rfl⟩ := map_eq_some_iff.mp hway
    rw [if_pos hoff, hbest]
    exact ⟨_, rfl, rfl⟩
  next => cases hway

/-- **The rule selected is the rule chosen**, whatever the endpoints, the clock, the session and
the tickets are. -/
theorem selectHttpRoute_rule (st : SelectionState) :
    (selectHttpRoute cr s request sessionResolver now st).1.map SelectedHttpRoute.ruleRef
      = (httpChoice cr s request).map RouteMatch.ruleRef := by
  have hways : (s.httpRuleContexts request).filterMap (ruleWay cr request)
      = (Best.made (httpRuleCandidate cr s request sessionResolver now)
          (s.httpRuleContexts request) st).map HttpCandidate.way := by
    rw [map_way_made]
    exact filterMap_congr fun context _ => (contextWay_eq_ruleWay context).symm
  rw [httpChoice, hways, Best.argmax_map, selectHttpRoute_eq, Option.map_map, Option.map_map]
  rfl

variable (cr s request) in
/-- **Which rule serves a request is not a matter of backends**: neither the clusters, their
policies and health nor the session, the clock and the tickets change it. -/
theorem httpRule_of_other_backends (backends : List BackendCluster)
    (backendPolicies : BTreeMap BackendPolicy) (endpointRuntime : EndpointRuntimeStore)
    (resolver resolver' : SessionPersistence → Option PersistentSessionTarget)
    (now now' : Instant) (st st' : SelectionState) :
    (selectHttpRoute cr
        (.rebuildRuntimeIndexes cr { s with backends, backendPolicies, endpointRuntime })
        request resolver' now' st').1.map SelectedHttpRoute.ruleRef
      = (selectHttpRoute cr (s.rebuildRuntimeIndexes cr) request resolver now st).1.map
        SelectedHttpRoute.ruleRef := by
  rw [selectHttpRoute_rule, selectHttpRoute_rule]
  rfl

/-! ## Without headers -/

/-- The same request without its headers, perhaps from another address. -/
structure Bare (bare request : RequestMeta) : Prop where
  host : bare.host = request.host
  port : bare.port = request.port
  path : bare.path = request.path
  method : bare.method = request.method
  queryParams : bare.queryParams = request.queryParams
  headers : bare.headers = .empty

variable {bare : RequestMeta}

theorem matchesHeaders_empty (expected : List HeaderMatch) :
    matchesHeaders cr expected .empty = expected.isEmpty := by
  cases expected with
  | nil => rfl
  | cons item expected => rfl

section

variable (h : Bare bare request)

include h

theorem Bare.matchesHttpRule (matcher : HttpMatch) :
    matchesHttpRule cr matcher bare
      = (matchesHttpRule cr matcher request && matcher.headers.isEmpty) := by
  rw [NantianGateway.matchesHttpRule, NantianGateway.matchesHttpRule, matchesHttpPath,
    matchesHttpPath, h.path, h.method, h.queryParams, h.headers, matchesHeaders_empty]
  cases hheaders : matcher.headers with
  | nil => simp [matchesHeaders]
  | cons item items => simp

theorem Bare.accepted_eq (rule : HttpRule) :
    ((rule.matches.filter fun matcher => NantianGateway.matchesHttpRule cr matcher bare).map
        fun matcher => (normalizeHttpPathMatch matcher, httpMatchScore matcher))
      = (((rule.matches.filter fun matcher =>
            NantianGateway.matchesHttpRule cr matcher request).map fun matcher =>
              (normalizeHttpPathMatch matcher, httpMatchScore matcher)).filter
                fun best => best.2.headerCount == 0) := by
  rw [List.filter_map, List.filter_filter]
  refine congrArg _ (filter_congr fun matcher _ => ?_)
  rw [h.matchesHttpRule, Bool.and_comm]
  simp only [Function.comp_apply, httpMatchScore]
  cases matcher.headers <;> simp

variable {best : MatchedHttpPath × HttpRuleScore} {rule : HttpRule}

theorem Bare.bestHttpRuleMatch_le (hbest : bestHttpRuleMatch cr rule bare = some best) :
    ∃ best', bestHttpRuleMatch cr rule request = some best' ∧ best.2 ≤ best'.2 := by
  rw [bestHttpRuleMatch] at hbest ⊢
  split
  next hnil =>
    rw [if_pos hnil] at hbest
    exact ⟨best, hbest, le_rfl⟩
  next hnil =>
    rw [if_neg hnil, h.accepted_eq] at hbest
    exact Best.exists_maxBy (mem_filter.mp (Best.maxBy_mem hbest)).1

theorem Bare.bestHttpRuleMatch_eq
    (hbest : bestHttpRuleMatch cr rule request = some best) (hfree : best.2.headerCount = 0) :
    bestHttpRuleMatch cr rule bare = some best := by
  rw [bestHttpRuleMatch] at hbest ⊢
  split
  next hnil =>
    rw [if_pos hnil] at hbest
    exact hbest
  next hnil =>
    rw [if_neg hnil] at hbest
    rw [h.accepted_eq]
    exact Best.maxBy_filter hbest (by simpa using hfree)

theorem Bare.httpContexts_eq : s.httpRuleContexts bare = s.httpRuleContexts request := by
  have hgate : s.httpRouteGate bare = s.httpRouteGate request := by
    funext route
    rw [httpRouteGate, httpRouteGate, h.host, h.port]
  rw [httpRuleContexts, httpRuleContexts, h.host, hgate]

theorem Bare.httpChoice_eq {way : RouteMatch} (hway : httpChoice cr s request = some way)
    (hfree : way.score.rule.headerCount = 0) :
    httpChoice cr s bare = some way := by
  rw [httpChoice] at hway ⊢
  rw [h.httpContexts_eq]
  refine Best.argmax_filterMap_of_le (fun context _ way' hway' => ?_) (fun context _ hcontext => ?_)
    hway
  · rw [ruleWay] at hway'
    split at hway'
    next hoff =>
      obtain ⟨best, hbest, rfl⟩ := map_eq_some_iff.mp hway'
      obtain ⟨best', hbest', hle⟩ := h.bestHttpRuleMatch_le hbest
      exact ⟨_, by rw [ruleWay, if_pos hoff, hbest']; rfl, CandidateScore.mk_le_mk hle⟩
    next => cases hway'
  · rw [ruleWay] at hcontext ⊢
    split at hcontext
    next hoff =>
      obtain ⟨best, hbest, rfl⟩ := map_eq_some_iff.mp hcontext
      rw [if_pos hoff, h.bestHttpRuleMatch_eq hbest hfree]
      rfl
    next => cases hcontext

end

end

/-! ## The fast path -/

section

variable {cr : Crates} {s : Snapshot} {request : HttpFastPathRequest} {now : Instant}
  {context : RuleContext HttpRoute HttpRule} {fast : FastContext}

theorem httpRuleHasSelectableBackend_of_compile {entry : HttpRule × ℕ}
    {compiled : CompiledHttpFastRule} (h : s.compileHttpFastRule entry = some compiled) :
    httpRuleHasSelectableBackend entry.1 = true := by
  by_contra hnone
  have hrefs : (entry.1.backendRefs.filter fun backendRef => backendRef.weight ≠ 0) = [] := by
    simpa [httpRuleHasSelectableBackend, filter_eq_nil_iff] using hnone
  rw [compileHttpFastRule, compileHttpFastBackendRefs, hrefs] at h
  split at h
  · cases h
  · simp at h

theorem ruleWay_of_fastContextOf (h : s.Indexed cr) (headers : BTreeMap (List String))
    (sourceIp : Option String)
    (hcontext : context ∈ s.httpRuleContexts (request.toMeta cr headers sourceIp))
    (hfast : fastContextOf cr s request context = some fast) :
    ∃ way, ruleWay cr (request.toMeta cr headers sourceIp) context = some way ∧
      way.score = FastCandidateScore.toHttp fast.score ∧
      way.ruleRef = ⟨.http, fast.route.routeNamespace, fast.route.routeName,
        some fast.rule.ruleIndex⟩ := by
  obtain ⟨compiled, hcompiled, hfast⟩ := bind_eq_some_iff.mp hfast
  obtain ⟨rule, hcompile, hfast⟩ := bind_eq_some_iff.mp hfast
  obtain ⟨best, hbest, rfl⟩ := map_eq_some_iff.mp hfast
  obtain ⟨-, hform⟩ := compileHttpFastRule_eq_some hcompile
  obtain ⟨hname, hnamespace, -⟩ := compileHttpFastRoute_eq_some hcompiled
  have hindex : rule.ruleIndex = context.ruleIndex := by rw [hform]
  have hoff := httpRuleHasSelectableBackend_of_compile hcompile
  refine ⟨⟨context.route, context.routeIndex, context.rule, context.ruleIndex, best.1,
    ⟨context.listenerHost, context.routeHost, best.2.toHttp⟩⟩, ?_, toHttp_score.symm, ?_⟩
  · rw [ruleWay, hoff, Bool.true_or, if_pos rfl,
      bestHttpRuleMatch_of_compiled h hcontext hcompile, hbest]
    rfl
  · rw [RouteMatch.ruleRef, hname, hnamespace, hindex]

theorem fastPath_rule (h : s.Indexed cr) (hport : request.port ≠ 0) {st : SelectionState}
    {selected : CompiledSelectedHttpBackend}
    (hselected : (s.selectHttpFastPath cr request now st).1 = some selected)
    (headers : BTreeMap (List String)) (sourceIp : Option String) :
    (httpChoice cr s (request.toMeta cr headers sourceIp)).map RouteMatch.ruleRef
      = some selected.ruleRef := by
  obtain ⟨hsafe, winner, earlier, context, later, -, rfl, hcontexts, hcontext, -,
      hbefore, hafter⟩ :=
    h.fastPath_winner hport hselected headers sourceIp
  have hmem : ∀ other ∈ earlier ++ context :: later,
      other ∈ s.httpRuleContexts (request.toMeta cr headers sourceIp) := fun other hother =>
    hcontexts ▸ hother
  obtain ⟨way, hway, hscore, hrule⟩ := ruleWay_of_fastContextOf h headers sourceIp
    (hmem context (mem_append_right _ mem_cons_self)) hcontext
  have hfast : ∀ other ∈ earlier ++ context :: later, ∀ way',
      ruleWay cr (request.toMeta cr headers sourceIp) other = some way' →
        ∃ fast, fastContextOf cr s request other = some fast ∧
          way'.score = FastCandidateScore.toHttp fast.score := by
    intro other hother way' hway'
    obtain ⟨candidate, hcandidate, rfl⟩ :=
      exists_candidate_of_ruleWay (s := s) hway' (fun _ => none) 0 {}
    obtain ⟨fast, hfast, hscore, -⟩ := fastContextOf_of_candidate h hsafe
        (hmem other hother) hcandidate
    exact ⟨fast, hfast, hscore⟩
  have hchoice : httpChoice cr s (request.toMeta cr headers sourceIp) = some way := by
    refine Best.argmax_filterMap_eq_some_iff_split.mpr ⟨earlier, context, later, hcontexts, hway,
      fun other hother way' hway' => ?_, fun other hother way' hway' => ?_⟩
    · obtain ⟨fast, hfast, hscore'⟩ := hfast other (mem_append_left _ hother) way' hway'
      rw [hscore, hscore', FastCandidateScore.toHttp_lt_toHttp]
      exact hbefore other hother fast hfast
    · obtain ⟨fast, hfast, hscore'⟩ := hfast other
        (mem_append_right _ (mem_cons_of_mem _ hother)) way' hway'
      rw [hscore, hscore', ← not_lt, FastCandidateScore.toHttp_lt_toHttp, not_lt]
      exact hafter other hother fast hfast
  rw [hchoice, map_some, hrule]
  rfl

end

end NantianGateway
