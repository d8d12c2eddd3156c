import NantianGateway.Ir.CompiledRefs
import NantianGateway.Ir.FastPathLoop

/-!
# The fast path refines the slow path

What the HTTP fast path selects, `select_http_route` selects.  The rules that the fast path did not
compile have no reference with weight, so the slow path passes over them; the scores of the others
compare alike.  The plan finds clusters by text, which needs unambiguous names.
-/

namespace NantianGateway

open Text Option Snapshot HttpFastPathPlan

/-! ## Rules and scores -/

def FastHttpRuleScore.toHttp (score : FastHttpRuleScore) : HttpRuleScore :=
  { pathRank := score.pathRank
    pathLength := score.pathLength
    methodSpecified := score.methodSpecified }

def FastCandidateScore.toHttp (score : FastCandidateScore) : HttpCandidateScore :=
  ⟨score.listenerHost, score.routeHost, score.rule.toHttp⟩

theorem FastHttpRuleScore.toHttp_lt_toHttp {a b : FastHttpRuleScore} :
    a.toHttp < b.toHttp ↔ a < b := by
  have hhttp : a.toHttp < b.toHttp ↔ toLex (a.pathRank, toLex (a.pathLength,
      toLex (a.methodSpecified, toLex ((0 : ℕ), (0 : ℕ)))))
      < toLex (b.pathRank, toLex (b.pathLength, toLex (b.methodSpecified,
        toLex ((0 : ℕ), (0 : ℕ))))) := Iff.rfl
  have hfast : a < b ↔ toLex (a.pathRank, toLex (a.pathLength, a.methodSpecified))
      < toLex (b.pathRank, toLex (b.pathLength, b.methodSpecified)) := Iff.rfl
  rw [hhttp, hfast]
  simp [Prod.Lex.toLex_lt_toLex]

theorem FastCandidateScore.toHttp_lt_toHttp {a b : FastCandidateScore} :
    FastCandidateScore.toHttp a < FastCandidateScore.toHttp b ↔ a < b := by
  have hhttp : FastCandidateScore.toHttp a < FastCandidateScore.toHttp b ↔
      toLex (a.listenerHost, toLex (a.routeHost, a.rule.toHttp))
        < toLex (b.listenerHost, toLex (b.routeHost, b.rule.toHttp)) := Iff.rfl
  have hfast : a < b ↔ toLex (a.listenerHost, toLex (a.routeHost, a.rule))
      < toLex (b.listenerHost, toLex (b.routeHost, b.rule)) := Iff.rfl
  rw [hhttp, hfast]
  simp [Prod.Lex.toLex_lt_toLex, FastHttpRuleScore.toHttp_lt_toHttp]

section Rules

variable {cr : Crates} {request : HttpFastPathRequest} (headers : BTreeMap (List String))
  (sourceIp : Option String)

theorem toMeta_path :
    (request.toMeta cr headers sourceIp).path = requestPathWithoutQuery request.path := by
  show ((splitOnce '?' request.path).getD (request.path, "")).1 = _
  rw [requestPathWithoutQuery]
  cases splitOnce '?' request.path <;> rfl

theorem matchesPathPrefix_eq (front path : String) :
    matchesPathPrefix front path = fastMatchesPathPrefix front path := by
  rw [matchesPathPrefix, fastMatchesPathPrefix]
  by_cases h1 : front = "/" <;> by_cases h2 : path = front <;> simp [h1, h2]

theorem regexMatches_compileRegex (pattern candidate : String) :
    regexMatches cr (compileRegex cr pattern true) pattern candidate
      = (compileRegex cr pattern true).any fun regex =>
          cr.regexIsMatch regex.pattern candidate := by
  rw [compileRegex]
  cases hvalid : cr.regexValid pattern <;> simp [regexMatches, hvalid]

theorem matchesHttpRule_toMeta {matcher : HttpMatch}
    (hplain : httpMatchIsFastPathEligible matcher = true)
    (hregex : matcher.compiledPathRegex
      = compileRegex cr matcher.path (matcher.pathType == "RegularExpression")) :
    matchesHttpRule cr matcher (request.toMeta cr headers sourceIp)
      = fastMatchesHttpRule cr (compileHttpFastMatch matcher)
          (requestPathWithoutQuery request.path) request.method := by
  obtain ⟨hheaders, hquery⟩ : matcher.headers = [] ∧ matcher.queryParams = [] := by
    simpa [httpMatchIsFastPathEligible] using hplain
  have hpath : matchesHttpPath cr matcher (request.toMeta cr headers sourceIp)
      = fastMatchesHttpPath cr (compileHttpFastMatch matcher)
          (requestPathWithoutQuery request.path) := by
    rw [matchesHttpPath, fastMatchesHttpPath, toMeta_path, hregex]
    refine if_congr Iff.rfl rfl ?_
    simp only [compileHttpFastMatch, hregex, matchesPathPrefix_eq]
    generalize matcher.pathType = pathType
    by_cases hexact : pathType = "Exact"
    · subst hexact
      rfl
    · by_cases hregular : pathType = "RegularExpression"
      · subst hregular
        rw [beq_self_eq_true]
        exact regexMatches_compileRegex _ _
      · simp only
  have hmethod : matchesMethod matcher.method (request.toMeta cr headers sourceIp).method
      = (matcher.method == "" || eqIgnoreAsciiCase matcher.method request.method) := by
    show matchesMethod matcher.method (asciiUpper request.method) = _
    rw [matchesMethod, eqIgnoreAsciiCase, eqIgnoreAsciiCase, asciiLower_asciiUpper]
  rw [matchesHttpRule, hpath, hmethod, hheaders, hquery, fastMatchesHttpRule]
  simp [matchesHeaders, matchesQueryParams, compileHttpFastMatch]

theorem httpMatchScore_eq {matcher : HttpMatch}
    (hplain : httpMatchIsFastPathEligible matcher = true) :
    httpMatchScore matcher = (compileHttpFastMatch matcher).score.toHttp := by
  obtain ⟨hheaders, hquery⟩ : matcher.headers = [] ∧ matcher.queryParams = [] := by
    simpa [httpMatchIsFastPathEligible] using hplain
  rw [httpMatchScore, hheaders, hquery]
  rfl

theorem bestHttpRuleMatch_toMeta {rule : HttpRule} {compiled : CompiledHttpFastRule}
    (hmatches : compiled.matches = compileHttpFastMatches rule)
    (hdefault : compiled.defaultMatchedHttpPath = defaultHttpPathMatch)
    (hplain : ∀ matcher ∈ rule.matches, httpMatchIsFastPathEligible matcher = true)
    (hregex : ∀ matcher ∈ rule.matches, matcher.compiledPathRegex
      = compileRegex cr matcher.path (matcher.pathType == "RegularExpression")) :
    bestHttpRuleMatch cr rule (request.toMeta cr headers sourceIp)
      = (fastBestHttpRuleMatch cr compiled (requestPathWithoutQuery request.path)
          request.method).map fun best => (best.1, best.2.toHttp) := by
  rw [bestHttpRuleMatch, fastBestHttpRuleMatch, hmatches, hdefault, compileHttpFastMatches]
  by_cases hnil : rule.matches = []
  · simp [hnil]
    rfl
  · have hnil' : ¬ (rule.matches.map compileHttpFastMatch).isEmpty = true := by simpa using hnil
    rw [if_neg hnil, if_neg hnil', List.filter_map, List.map_map]
    have hfilter : (rule.matches.filter fun matcher =>
        matchesHttpRule cr matcher (request.toMeta cr headers sourceIp))
        = rule.matches.filter ((fun matcher => fastMatchesHttpRule cr matcher
            (requestPathWithoutQuery request.path) request.method) ∘ compileHttpFastMatch) :=
      List.filter_congr fun matcher hm =>
        matchesHttpRule_toMeta headers sourceIp (hplain matcher hm) (hregex matcher hm)
    have hscore : ∀ matcher ∈ rule.matches.filter ((fun matcher => fastMatchesHttpRule cr matcher
        (requestPathWithoutQuery request.path) request.method) ∘ compileHttpFastMatch),
        httpMatchScore matcher = (compileHttpFastMatch matcher).score.toHttp :=
      fun matcher hm => httpMatchScore_eq (hplain matcher (List.mem_of_mem_filter hm))
    rw [hfilter, Best.maxBy_map, Best.maxBy_map, map_map]
    generalize rule.matches.filter _ = accepted at hscore
    rw [Best.maxBy_congr (g := fun matcher => (compileHttpFastMatch matcher).score)
      fun x hx y hy => by
        rw [Function.comp_apply, Function.comp_apply, hscore x hx, hscore y hy]
        exact FastHttpRuleScore.toHttp_lt_toHttp]
    cases hbest : Best.maxBy (fun matcher => (compileHttpFastMatch matcher).score) accepted with
    | none =>
      rw [Best.maxBy_eq_none] at hbest
      rw [hbest]
      rfl
    | some matcher =>
      have hmatcher : Best.maxBy (Prod.snd ∘ (fun matcher : CompiledHttpFastMatch =>
          (matcher.matchedHttpPath, matcher.score)) ∘ compileHttpFastMatch) accepted
          = some matcher := hbest
      rw [hmatcher, map_some, map_some, hscore matcher (Best.maxBy_mem hbest)]
      rfl

end Rules

/-! ## Plain rules -/

namespace Snapshot

variable {cr : Crates} {s : Snapshot} {now : Instant} {rule : HttpRule}

/-- What a rule that is safe for the plan looks like. -/
structure PlainRule (s : Snapshot) (rule : HttpRule) : Prop where
  timeouts : rule.timeouts = none
  retry : rule.retry = none
  sessionPersistence : rule.sessionPersistence = none
  filters : rule.filters = []
  «matches» : ∀ matcher ∈ rule.matches, httpMatchIsFastPathEligible matcher = true
  refs : ∀ backendRef ∈ rule.backendRefs, backendRef.weight ≠ 0 →
    s.backendRefIsFastPathEligible backendRef = true

theorem plainRule_of_safe (h : s.httpRuleIsFastPathSelectionSafe rule = true) :
    s.PlainRule rule := by
  simp only [httpRuleIsFastPathSelectionSafe, Bool.and_eq_true, isNone_iff_eq_none,
    List.isEmpty_iff, List.all_eq_true, List.mem_filter, decide_eq_true_eq] at h
  obtain ⟨⟨⟨⟨⟨htime, hretry⟩, hsession⟩, hfilters⟩, hmatches⟩, hrefs⟩ := h
  exact ⟨htime, hretry, hsession, hfilters, hmatches,
    fun backendRef hmem hw => hrefs backendRef ⟨hmem, hw⟩⟩

variable {backendRef : BackendRef} {compiled : CompiledHttpFastRule}

section

variable (h : s.backendRefIsFastPathEligible backendRef = true)

include h

theorem filters_of_eligible : backendRef.filters = [] := by
  by_contra hne
  rw [backendRefIsFastPathEligible, if_pos hne] at h
  exact Bool.false_ne_true h

theorem backendSessionPersistence_of_eligible :
    s.backendSessionPersistence (requestedBackendName backendRef.toBackendTarget) = none := by
  rw [backendRefIsFastPathEligible, if_neg (not_not.mpr (filters_of_eligible h))] at h
  rw [backendSessionPersistence]
  cases hpolicy : s.backendPolicy (requestedBackendName backendRef.toBackendTarget) with
  | none => rfl
  | some policy =>
    rw [hpolicy, all_some, Bool.and_eq_true, isNone_iff_eq_none] at h
    exact h.1

theorem backendLoadBalancing_of_eligible {policy : LoadBalancingPolicy}
    (hpolicy : s.backendLoadBalancing (requestedBackendName backendRef.toBackendTarget)
      = some policy) : policy.policyType ≠ "ConsistentHash" := by
  rw [backendRefIsFastPathEligible, if_neg (not_not.mpr (filters_of_eligible h))] at h
  obtain ⟨found, hfound, hbalancing⟩ := bind_eq_some_iff.mp hpolicy
  rw [hfound, all_some, hbalancing, all_some, Bool.and_eq_true, decide_eq_true_eq] at h
  exact h.2

end

theorem nameForIndex_eq_requested (h : s.Coherent cr) {backendRef : BackendTarget} {i : ℕ}
    {cluster : BackendCluster} (hfound : s.findBackendClusterIndex backendRef = some (i, cluster)) :
    s.backendNameForIndex i cluster = requestedBackendName backendRef := by
  rw [findBackendClusterIndex] at hfound
  split at hfound
  · obtain ⟨hi, hmatch⟩ := clusterForService_some h hfound
    rw [nameForIndex_eq h hi, (matchesRef_iff_clusterName.mp hmatch).1]
  · cases hfound

theorem policyPersistent_of_plain (h : s.Coherent cr)
    (hplain : s.PlainRule rule)
    (sessionResolver : SessionPersistence → Option PersistentSessionTarget) :
    s.resolveBackendPolicyPersistentHttpBackend now rule.backendRefs sessionResolver = none := by
  rw [resolveBackendPolicyPersistentHttpBackend, List.findSome?_eq_none_iff]
  intro backendRef hmem
  split
  · rfl
  · next hw =>
    obtain ⟨hw, -⟩ := not_or.mp hw
    cases hfound : s.findBackendClusterIndex backendRef.toBackendTarget with
    | none => rfl
    | some found =>
      rw [bind_some, nameForIndex_eq_requested h hfound,
        backendSessionPersistence_of_eligible (hplain.refs backendRef hmem hw)]
      rfl

theorem fixedResolution_of_plain (h : s.Coherent cr) (hplain : s.PlainRule rule)
    (hne : s.httpBackendCandidates rule.backendRefs now ≠ []) (request : RequestMeta)
    (sessionResolver : SessionPersistence → Option PersistentSessionTarget) :
    s.fixedResolution rule.backendRefs rule.sessionPersistence request sessionResolver now
      = none := by
  have hhash : s.resolveConsistentHashHttpBackend rule.backendRefs now
      (s.visitHttpBackendCandidates rule.backendRefs now).effectiveLoadBalancing none request
      = none := by
    cases hpolicy : (s.visitHttpBackendCandidates rule.backendRefs now).effectiveLoadBalancing with
    | none => rfl
    | some policy =>
      obtain ⟨candidate, hmem, hbalancing⟩ := exists_of_balancing hpolicy
      obtain ⟨backendRef, href, hcandidate⟩ := mem_httpCandidates.mp hmem
      obtain ⟨hw, -, i, cluster, hfound, -, rfl⟩ := httpCandidate_eq_candidate.mp hcandidate
      rw [nameForIndex_eq_requested h hfound] at hbalancing
      have htype := backendLoadBalancing_of_eligible (hplain.refs backendRef href hw) hbalancing
      rw [resolveConsistentHashHttpBackend, bind_some, if_pos htype]
  rw [fixedResolution, hplain.sessionPersistence]
  simp only [bind_none, isNone_none, if_true, if_neg hne, hhash, policyPersistent_of_plain h hplain]
  rfl

theorem ruleAdmissible_of_not_selectable (h : s.Coherent cr) (hplain : s.PlainRule rule)
    (hselectable : httpRuleHasSelectableBackend rule = false) (request : RequestMeta)
    (sessionResolver : SessionPersistence → Option PersistentSessionTarget) :
    s.ruleAdmissible now request sessionResolver rule = false := by
  have hskip : ∀ backendRef ∈ rule.backendRefs,
      s.httpBackendCandidate now backendRef = .skipped := by
    intro backendRef hmem
    have hw : backendRef.weight = 0 := by
      simpa using List.any_eq_false.mp hselectable backendRef hmem
    rw [httpBackendCandidate, if_pos hw]
  have hnil : s.httpBackendCandidates rule.backendRefs now = [] := by
    rw [httpBackendCandidates, List.filterMap_eq_nil_iff]
    intro backendRef hmem
    rw [hskip backendRef hmem]
    rfl
  have herror : (s.visitHttpBackendCandidates rule.backendRefs now) = {} := by
    rw [visitHttpBackendCandidates]
    generalize rule.backendRefs = refs at hskip
    induction refs with
    | nil => rfl
    | cons backendRef refs ih =>
      rw [List.foldl_cons, visitStep, hskip backendRef List.mem_cons_self]
      exact ih fun backendRef hmem => hskip backendRef (List.mem_cons_of_mem _ hmem)
  rw [ruleAdmissible, fixedResolution, hplain.sessionPersistence]
  simp only [bind_none, isNone_none, if_true, if_pos hnil, herror,
    policyPersistent_of_plain h hplain]
  rw [admissibleResolution, hplain.filters]
  rfl

/-! ## What the plan compiles -/

theorem eq_filterMap_of_mapM {α β : Type} {f : α → Option β} {l : List α} {l' : List β}
    (h : l.mapM f = some l') : l' = l.filterMap f := by
  induction l generalizing l' with
  | nil => exact (Option.some.inj h).symm
  | cons a l ih =>
    rw [List.mapM_cons] at h
    obtain ⟨b, hb, h⟩ := bind_eq_some_iff.mp h
    obtain ⟨bs, hbs, h⟩ := bind_eq_some_iff.mp h
    rw [List.filterMap_cons_some hb, ← ih hbs]
    exact (Option.some.inj h).symm

theorem compileFastRefs_eq_some {compiled : List CompiledHttpFastBackendRef}
    (h : s.compileHttpFastBackendRefs rule = some compiled) :
    compiled = rule.backendRefs.filterMap s.compileHttpFastBackendRef := by
  rw [compileHttpFastBackendRefs, filter_eq_some_iff] at h
  rw [eq_filterMap_of_mapM h.1, List.filterMap_filter]
  refine List.filterMap_congr fun backendRef _ => ?_
  by_cases hw : backendRef.weight = 0
  · simp [hw, compileHttpFastBackendRef]
  · simp [hw]

theorem compileHttpFastRule_eq_some {entry : HttpRule × ℕ}
    (h : s.compileHttpFastRule entry = some compiled) :
    s.PlainRule entry.1 ∧ compiled = ⟨entry.2, compileHttpFastMatches entry.1, defaultHttpPathMatch,
      entry.1.backendRefs.filterMap s.compileHttpFastBackendRef⟩ := by
  rw [compileHttpFastRule] at h
  split at h
  · cases h
  · next hsafe =>
    obtain ⟨refs, hrefs, rfl⟩ := map_eq_some_iff.mp h
    rw [compileFastRefs_eq_some hrefs]
    exact ⟨plainRule_of_safe (Bool.not_eq_false _ ▸ hsafe), rfl⟩

theorem compileHttpFastRoute_eq_some {entry : HttpRoute × ℕ} {compiled : CompiledHttpFastRoute}
    (h : s.compileHttpFastRoute entry = some compiled) :
    compiled.routeName = entry.1.name ∧ compiled.routeNamespace = entry.1.namespace ∧
      compiled.routeAnnotations = entry.1.annotations := by
  rw [compileHttpFastRoute] at h
  split at h
  · cases h
  · rw [← Option.some.inj h]
    exact ⟨rfl, rfl, rfl⟩

theorem exists_compileHttpFastRoute (entry : HttpRoute × ℕ) {ruleEntry : HttpRule × ℕ}
    (hrule : ruleEntry ∈ entry.1.rules.zipIdx)
    (hcompiled : s.compileHttpFastRule ruleEntry = some compiled) :
    ∃ route, s.compileHttpFastRoute entry = some route := by
  have hne : ¬ (entry.1.rules.zipIdx.filterMap s.compileHttpFastRule).isEmpty = true := by
    rw [List.isEmpty_iff]
    intro hnil
    have hmem : compiled ∈ entry.1.rules.zipIdx.filterMap s.compileHttpFastRule :=
      List.mem_filterMap.mpr ⟨ruleEntry, hrule, hcompiled⟩
    rw [hnil] at hmem
    exact List.not_mem_nil hmem
  exact ⟨_, if_neg hne⟩

theorem of_not_spoils (h : s.httpRuleSpoilsFastPath rule = false) (index : ℕ) :
    s.PlainRule rule ∧ (httpRuleHasSelectableBackend rule = false ∨
      ∃ compiled, s.compileHttpFastRule (rule, index) = some compiled) := by
  rw [httpRuleSpoilsFastPath, Bool.or_eq_false_iff, decide_eq_false_iff_not] at h
  obtain ⟨hsafe, hrefs⟩ := h
  refine ⟨plainRule_of_safe (Bool.not_eq_false _ ▸ hsafe), ?_⟩
  rw [Bool.and_eq_false_iff] at hrefs
  rcases hrefs with hrefs | hselectable
  · right
    obtain ⟨refs, hrefs⟩ := isSome_iff_exists.mp (isNone_eq_false_iff.mp hrefs)
    rw [compileHttpFastRule, if_neg hsafe, hrefs]
    exact ⟨_, rfl⟩
  · exact Or.inl hselectable

end Snapshot

/-! ## The two loops agree -/

section Refinement

variable {cr : Crates} {s : Snapshot} {request : HttpFastPathRequest}
  {headers : BTreeMap (List String)} {sourceIp : Option String}
  {sessionResolver : SessionPersistence → Option PersistentSessionTarget} {now : Instant}
  {context : RuleContext HttpRoute HttpRule}
  {slowRequest : RequestMeta} {route : HttpRoute} {rule : HttpRule} {st : SelectionState}
  {fast : FastContext} {selection : FastSelection} {selected : CompiledSelectedHttpBackend}

theorem mem_httpRoutes_of_mem_contexts (h : s.Coherent cr)
    (hcontext : context ∈ s.httpRuleContexts slowRequest) :
    context.route ∈ s.httpRoutes ∧ (context.rule, context.ruleIndex) ∈ context.route.rules.zipIdx ∧
      s.httpRouteGate slowRequest context.route = some (context.listenerMatch, context.routeHost) :=
  of_mem_contexts (httpContexts_eq h _ ▸ hcontext)

theorem rule_mem_of_mem_zipIdx {i : ℕ} (h : (rule, i) ∈ route.rules.zipIdx) : rule ∈ route.rules :=
  List.mem_of_getElem? (getElem?_of_mem_zipIdx h)

theorem Snapshot.Indexed.compiledPathRegex_eq (h : s.Indexed cr) {matcher : HttpMatch}
    (hroute : route ∈ s.httpRoutes) (hrule : rule ∈ route.rules)
    (hmatcher : matcher ∈ rule.matches) :
    matcher.compiledPathRegex
      = compileRegex cr matcher.path (matcher.pathType == "RegularExpression") := by
  have hrule' := List.map_inj_left.mp
    ((congrArg HttpRoute.rules (h.compiled_http route hroute)).trans
    (List.map_id route.rules).symm) rule hrule
  have hmatcher' := List.map_inj_left.mp ((congrArg HttpRule.matches hrule').trans
    (List.map_id rule.matches).symm) matcher hmatcher
  exact (congrArg HttpMatch.compiledPathRegex hmatcher').symm

theorem bestHttpRuleMatch_of_compiled (h : s.Indexed cr)
    (hcontext : context ∈ s.httpRuleContexts (request.toMeta cr headers sourceIp))
    {rule : CompiledHttpFastRule}
    (hcompile : s.compileHttpFastRule (context.rule, context.ruleIndex) = some rule) :
    bestHttpRuleMatch cr context.rule (request.toMeta cr headers sourceIp)
      = (fastBestHttpRuleMatch cr rule (requestPathWithoutQuery request.path) request.method).map
          fun best => (best.1, best.2.toHttp) := by
  obtain ⟨hroute, hrule, -⟩ := mem_httpRoutes_of_mem_contexts h.coherent hcontext
  obtain ⟨hplain, rfl⟩ := compileHttpFastRule_eq_some hcompile
  exact bestHttpRuleMatch_toMeta headers sourceIp rfl rfl hplain.matches fun matcher hm =>
    h.compiledPathRegex_eq hroute (rule_mem_of_mem_zipIdx hrule) hm

theorem toHttp_score {compiled : CompiledHttpFastRoute} {rule : CompiledHttpFastRule}
    {best : MatchedHttpPath × FastHttpRuleScore} :
    FastCandidateScore.toHttp (FastContext.score ⟨compiled,
      context.listenerMatch.map MatchedListener.toFast, context.routeHost, rule, best.1, best.2⟩)
      = ⟨context.listenerHost, context.routeHost, best.2.toHttp⟩ := by
  rw [FastContext.score, FastCandidateScore.toHttp, RuleContext.listenerHost, map_map]
  rfl

theorem fastContextOf_of_candidate (h : s.Indexed cr) (hsafe : s.httpFastPath.selectionSafe = true)
    (hcontext : context ∈ s.httpRuleContexts (request.toMeta cr headers sourceIp))
    {candidate : HttpCandidate}
    (hcandidate : (httpRuleCandidate cr s (request.toMeta cr headers sourceIp) sessionResolver now
      context st).1 = some candidate) :
    ∃ fast, fastContextOf cr s request context = some fast ∧
      candidate.score = FastCandidateScore.toHttp fast.score ∧
      candidate.matchedHttpPath = fast.matchedHttpPath := by
  obtain ⟨hroute, hrule, -⟩ := mem_httpRoutes_of_mem_contexts h.coherent hcontext
  have hspoils : s.httpRuleSpoilsFastPath context.rule = false := by
    rw [h.httpFastPath] at hsafe
    have hall := List.all_eq_true.mp (List.all_eq_true.mp hsafe _ hroute) _
      (rule_mem_of_mem_zipIdx hrule)
    simpa using hall
  obtain ⟨hplain, hcompiled⟩ := of_not_spoils hspoils context.ruleIndex
  rw [httpRuleCandidate_fst] at hcandidate
  split at hcandidate
  · next hadmissible =>
    rcases hcompiled with hselectable | ⟨rule, hcompile⟩
    · rw [ruleAdmissible_of_not_selectable h.coherent hplain hselectable] at hadmissible
      cases hadmissible
    · obtain ⟨compiled, hcompiledRoute⟩ := exists_compileHttpFastRoute
        (context.route, context.routeIndex) hrule hcompile
      rw [bestHttpRuleMatch_of_compiled h hcontext hcompile] at hcandidate
      obtain ⟨best, hbest, rfl⟩ := map_eq_some_iff.mp hcandidate
      obtain ⟨fastBest, hfastBest, rfl⟩ := map_eq_some_iff.mp hbest
      refine ⟨⟨compiled, context.listenerMatch.map MatchedListener.toFast, context.routeHost, rule,
        fastBest.1, fastBest.2⟩, ?_, toHttp_score.symm, rfl⟩
      rw [fastContextOf, hcompiledRoute, bind_some, hcompile, bind_some, hfastBest]
      rfl
  · cases hcandidate

def compileListener (item : MatchedListener) : CompiledHttpFastListener :=
  ⟨item.listener.name, item.listener.protocol, item.listener.backendTls.isSome⟩

theorem makeSelection_spec (h : s.Indexed cr)
    (hlisteners : ∀ item, context.listenerMatch = some item →
      s.listeners[item.listenerIndex]? = some item.listener)
    (hmatch : fast.listenerMatch = context.listenerMatch.map MatchedListener.toFast)
    (hselection : (s.httpFastPath.makeSelection s now fast st).1 = some selection) :
    selection.listener = context.listenerMatch.map compileListener ∧
      (context.listenerMatch.bind fun item => item.listener.backendTls) = none ∧
      (s.selectCompiledHttpFastBackend fast.rule.backendRefs now st).1
        = some selection.selected := by
  have hinfo : s.httpFastPath.listenerInfo fast.listenerMatch
      = some (context.listenerMatch.map compileListener) := by
    rw [hmatch, h.httpFastPath]
    cases hitem : context.listenerMatch with
    | none => rfl
    | some item =>
      simp only [listenerInfo, buildHttpFastPathPlan, map_some,
        MatchedListener.toFast, List.getElem?_map, hlisteners item hitem]
      rfl
  rw [makeSelection, hinfo] at hselection
  simp only at hselection
  split at hselection
  · cases hselection
  · next htls =>
    obtain ⟨selected, hselected, rfl⟩ := map_eq_some_iff.mp hselection
    refine ⟨rfl, ?_, hselected⟩
    cases hitem : context.listenerMatch with
    | none => rfl
    | some item =>
      rw [hitem] at htls
      simpa [compileListener] using htls

/-- What the slow path reports of a rule that the fast path selected. -/
structure FastPathAgrees (selected : CompiledSelectedHttpBackend) (route : SelectedHttpRoute) :
    Prop where
  routeNamespace : route.routeNamespace = selected.routeNamespace
  routeName : route.routeName = selected.routeName
  ruleIndex : route.ruleIndex = selected.ruleIndex
  listenerName : route.listenerName = selected.listenerName
  listenerProtocol : route.listenerProtocol = selected.listenerProtocol
  matchedHttpPath : route.matchedHttpPath = selected.matchedHttpPath
  backendError : route.backendError = none
  filters : route.filters = []
  timeouts : route.timeouts = none
  retry : route.retry = none
  sessionPersistence : route.sessionPersistence = none
  backendTls : route.backendTls = none

variable (sessionResolver) in
theorem ruleResolution_of_plain (h : s.Coherent cr) (hplain : s.PlainRule context.rule)
    (hne : s.httpBackendCandidates context.rule.backendRefs now ≠ []) (slowRequest : RequestMeta)
    (st : SelectionState) :
    ∃ drawn endpoint, s.drawnCandidate context.rule.backendRefs now st.backendCursor = some drawn ∧
      s.drawnEndpoint drawn now st.endpointCursor = some endpoint ∧
      ruleResolution s slowRequest sessionResolver now context st
        = { selected := some ⟨endpoint, drawn.backendName, [], none⟩ } := by
  obtain ⟨drawn, hmem, hdrawn, endpoint, -, hendpoint, hspec⟩ := resolveWeighted_spec hne none st
  refine ⟨drawn, endpoint, hdrawn, hendpoint, ?_⟩
  obtain ⟨backendRef, href, hcandidate⟩ := mem_httpCandidates.mp hmem
  obtain ⟨hw, -, i, cluster, hfound, -, rfl⟩ :=
    httpCandidate_eq_candidate.mp hcandidate
  have heligible := hplain.refs backendRef href hw
  have hresolved : s.resolved none ⟨cluster, backendRef, s.backendNameForIndex i cluster⟩ endpoint
      = ⟨endpoint, s.backendNameForIndex i cluster, [], none⟩ := by
    simp only [resolved, isNone_none, if_true, filters_of_eligible heligible,
      nameForIndex_eq_requested h hfound, backendSessionPersistence_of_eligible heligible]
  rw [ruleResolution, resolve_eq, fixedResolution_of_plain h hplain hne, hplain.sessionPersistence]
  simp only [hspec, hresolved]

theorem listener_of_mem_contexts (h : s.Coherent cr)
    (hcontext : context ∈ s.httpRuleContexts slowRequest) (item : MatchedListener)
    (hitem : context.listenerMatch = some item) :
    s.listeners[item.listenerIndex]? = some item.listener := by
  obtain ⟨-, -, hgate⟩ := mem_httpRoutes_of_mem_contexts h hcontext
  obtain ⟨hmatch, -, -⟩ := routeGate_eq_some.mp hgate
  exact s.getElem?_of_routeListenerMatch h (hmatch.trans hitem)

/-- **A rule the fast path selected is a candidate of the slow path that agrees with it**,
and from the same tickets it has the same backend. -/
theorem httpRuleCandidate_of_selection (h : s.Indexed cr)
    (hnames : ∀ backendRef ∈ context.rule.backendRefs, backendRef.weight ≠ 0 →
      s.Unambiguous backendRef.toBackendTarget)
    (hcontext : context ∈ s.httpRuleContexts (request.toMeta cr headers sourceIp))
    (hfast : fastContextOf cr s request context = some fast) {st₁ : SelectionState}
    (hselection : (s.httpFastPath.makeSelection s now fast st₁).1 = some selection)
    (st : SelectionState) :
    ∃ candidate, (httpRuleCandidate cr s (request.toMeta cr headers sourceIp) sessionResolver now
        context st).1 = some candidate ∧
      candidate.score = FastCandidateScore.toHttp fast.score ∧
      FastPathAgrees (toSelected (fast, selection)) (candidate.toSelected s) ∧
      (st.backendCursor = st₁.backendCursor → st.endpointCursor = st₁.endpointCursor →
        (candidate.toSelected s).backend = some selection.selected.endpoint ∧
          (candidate.toSelected s).backendName = some selection.selected.backendName) := by
  obtain ⟨compiled, hcompiled, hfast⟩ := bind_eq_some_iff.mp hfast
  obtain ⟨rule, hcompile, hfast⟩ := bind_eq_some_iff.mp hfast
  obtain ⟨best, hbest, rfl⟩ := map_eq_some_iff.mp hfast
  obtain ⟨hplain, hform⟩ := compileHttpFastRule_eq_some hcompile
  replace hplain : s.PlainRule context.rule := hplain
  obtain ⟨hname, hnamespace, -⟩ := compileHttpFastRoute_eq_some hcompiled
  obtain ⟨hlistener, htls, hselected⟩ := makeSelection_spec h
    (listener_of_mem_contexts h.coherent hcontext) rfl hselection
  have hindex : rule.ruleIndex = context.ruleIndex := by rw [hform]
  have hrefs : rule.backendRefs
      = context.rule.backendRefs.filterMap s.compileHttpFastBackendRef := by rw [hform]
  rw [hrefs, h.selectCompiled_eq hnames] at hselected
  by_cases hnil : s.httpBackendCandidates context.rule.backendRefs now = []
  · rw [if_pos hnil] at hselected
    cases hselected
  rw [if_neg hnil] at hselected
  obtain ⟨drawn, endpoint, hdrawn, hendpoint, hresolution⟩ := ruleResolution_of_plain
    sessionResolver h.coherent hplain hnil (request.toMeta cr headers sourceIp) st
  have hadmissible : s.ruleAdmissible now (request.toMeta cr headers sourceIp) sessionResolver
      context.rule = true := by
    rw [ruleAdmissible, fixedResolution_of_plain h.coherent hplain hnil]
  refine ⟨⟨context, best.1, { selected := some ⟨endpoint, drawn.backendName, [], none⟩ },
    ⟨context.listenerHost, context.routeHost, best.2.toHttp⟩⟩, ?_, toHttp_score.symm, ?_, ?_⟩
  · rw [httpRuleCandidate_fst, if_pos hadmissible, hresolution,
      bestHttpRuleMatch_of_compiled h hcontext hcompile, hbest]
    rfl
  · exact
      { routeNamespace := hnamespace.symm
        routeName := hname.symm
        ruleIndex := congrArg some hindex.symm
        listenerName := by
          simp only [HttpCandidate.toSelected, toSelected, hlistener, map_map]
          rfl
        listenerProtocol := by
          simp only [HttpCandidate.toSelected, toSelected, hlistener, map_map]
          rfl
        matchedHttpPath := rfl
        backendError := rfl
        filters := by simp [HttpCandidate.toSelected, hplain.filters]
        timeouts := hplain.timeouts
        retry := hplain.retry
        sessionPersistence := by simp [HttpCandidate.toSelected, hplain.sessionPersistence]
        backendTls := htls }
  · intro hbackend hcursor
    rw [← hbackend, ← hcursor, hdrawn, bind_some, hendpoint] at hselected
    rw [← Option.some.inj hselected]
    exact ⟨rfl, rfl⟩

/-- **The rule the fast path selects stands first among the best**: those before it score
less, those behind it no more. -/
theorem Snapshot.Indexed.fastPath_winner (h : s.Indexed cr) (hport : request.port ≠ 0)
    (hselected : (s.selectHttpFastPath cr request now st).1 = some selected)
    (headers : BTreeMap (List String)) (sourceIp : Option String) :
    s.httpFastPath.selectionSafe = true ∧ ∃ winner earlier context later st₁,
      selected = toSelected winner ∧
      s.httpRuleContexts (request.toMeta cr headers sourceIp) = earlier ++ context :: later ∧
      fastContextOf cr s request context = some winner.1 ∧
      (s.httpFastPath.makeSelection s now winner.1 st₁).1 = some winner.2 ∧
      (∀ other ∈ earlier, ∀ fast, fastContextOf cr s request other = some fast →
        fast.score < winner.1.score) ∧
      ∀ other ∈ later, ∀ fast, fastContextOf cr s request other = some fast →
        fast.score ≤ winner.1.score := by
  rw [selectHttpFastPath, select] at hselected
  split at hselected
  · cases hselected
  next hguard =>
  have hsafe : s.httpFastPath.selectionSafe = true := by
    simpa using (not_or.mp hguard).1
  rw [h.foldl_routeStep hport headers sourceIp] at hselected
  simp only at hselected
  obtain ⟨winner, hwinner, rfl⟩ := map_eq_some_iff.mp hselected
  obtain ⟨hargmax, hmade⟩ := Best.foldl_strictStep (join_eq_some_iff.mp hwinner)
  obtain ⟨-, st₁, hselection⟩ := hmade winner rfl
  obtain ⟨earlier, context, later, hsplit⟩ :=
    Best.argmax_filterMap_eq_some_iff_split.mp hargmax.symm
  obtain ⟨hcontexts, hcontext, hbefore, hafter⟩ := hsplit
  exact ⟨hsafe, winner, earlier, context, later, st₁, rfl, hcontexts, hcontext, hselection,
    hbefore, hafter⟩

theorem Snapshot.Indexed.fastPath_refines (h : s.Indexed cr) (hport : request.port ≠ 0)
    (hnames : ∀ route ∈ s.httpRoutes, ∀ rule ∈ route.rules, ∀ backendRef ∈ rule.backendRefs,
      backendRef.weight ≠ 0 → s.Unambiguous backendRef.toBackendTarget)
    (hselected : (s.selectHttpFastPath cr request now st).1 = some selected)
    (headers : BTreeMap (List String)) (sourceIp : Option String)
    (sessionResolver : SessionPersistence → Option PersistentSessionTarget) :
    (∀ st', ∃ route, (selectHttpRoute cr s (request.toMeta cr headers sourceIp) sessionResolver now
        st').1 = some route ∧ FastPathAgrees selected route) ∧
      ∃ st' route, (selectHttpRoute cr s (request.toMeta cr headers sourceIp) sessionResolver now
        st').1 = some route ∧ route.backend = some selected.backend ∧
          route.backendName = some selected.backendName := by
  obtain ⟨hsafe, winner, earlier, context, later, st₁, rfl, hcontexts, hcontext,
    hselection, hbefore, hafter⟩ := h.fastPath_winner hport hselected headers sourceIp
  have hmem : ∀ other ∈ earlier ++ context :: later,
      other ∈ s.httpRuleContexts (request.toMeta cr headers sourceIp) := fun other hother =>
    hcontexts ▸ hother
  have hcontextMem := hmem context (List.mem_append_right _ List.mem_cons_self)
  obtain ⟨hroute, hrule, -⟩ := mem_httpRoutes_of_mem_contexts h.coherent hcontextMem
  -- whatever the tickets, the slow path keeps the candidate of the same context
  have hslow : ∀ st', ∃ route, (selectHttpRoute cr s (request.toMeta cr headers sourceIp)
      sessionResolver now st').1 = some route ∧
        FastPathAgrees (toSelected winner) route ∧
        (st'.advance (earlier.countP (drawsTickets cr s
            (request.toMeta cr headers sourceIp) sessionResolver now)) = st₁ →
          route.backend = some winner.2.selected.endpoint ∧
            route.backendName = some winner.2.selected.backendName) := by
    intro st'
    obtain ⟨candidate, hcandidate, hscore, hagrees, hbackend⟩ := httpRuleCandidate_of_selection h
      (hnames _ hroute _ (rule_mem_of_mem_zipIdx hrule)) hcontextMem hcontext hselection
      (Best.stateAfter (httpRuleCandidate cr s (request.toMeta cr headers sourceIp) sessionResolver
        now) st' earlier)
    refine ⟨candidate.toSelected s, ?_, hagrees, fun hst => ?_⟩
    · rw [selectHttpRoute_eq, Best.argmax_made_of_split hcontexts hcandidate
        (fun other hother st d hd => ?_) fun other hother st d hd => ?_]
      · rfl
      · obtain ⟨fast, hfast, hfastScore, -⟩ := fastContextOf_of_candidate h hsafe
          (hmem other (List.mem_append_left _ hother)) hd
        rw [hscore, hfastScore, FastCandidateScore.toHttp_lt_toHttp]
        exact hbefore other hother fast hfast
      · obtain ⟨fast, hfast, hfastScore, -⟩ := fastContextOf_of_candidate h hsafe
          (hmem other (List.mem_append_right _ (List.mem_cons_of_mem _ hother))) hd
        rw [hscore, hfastScore, ← not_lt, FastCandidateScore.toHttp_lt_toHttp, not_lt]
        exact hafter other hother fast hfast
    · rw [stateAfter_httpRuleCandidate, hst] at hbackend
      exact hbackend rfl rfl
  refine ⟨fun st' => ?_, ?_⟩
  · obtain ⟨route, hroute, hagrees, -⟩ := hslow st'
    exact ⟨route, hroute, hagrees⟩
  · obtain ⟨st', hst'⟩ := SelectionState.exists_advance_eq st₁ (earlier.countP
      (drawsTickets cr s (request.toMeta cr headers sourceIp) sessionResolver now))
    obtain ⟨route, hroute, -, hbackend⟩ := hslow st'
    exact ⟨st', route, hroute, hbackend hst'⟩

end Refinement

/-! ## Rebuilt snapshots -/

theorem forall_backendRef_rebuild {cr : Crates} {s : Snapshot} {p : BackendRef → Prop}
    (h : ∀ route ∈ s.httpRoutes, ∀ rule ∈ route.rules, ∀ backendRef ∈ rule.backendRefs,
      p backendRef) :
    ∀ route ∈ (s.rebuildRuntimeIndexes cr).httpRoutes, ∀ rule ∈ route.rules,
      ∀ backendRef ∈ rule.backendRefs, p backendRef := by
  intro route hroute rule hrule
  obtain ⟨source, hsource, rfl⟩ := List.mem_map.mp hroute
  obtain ⟨sourceRule, hsourceRule, rfl⟩ := List.mem_map.mp hrule
  exact h source hsource sourceRule hsourceRule

/-- **The HTTP fast path refines `select_http_route`.** If it selects a backend, the slow path, with
any headers, sessions and tickets, selects the same rule of the same route through the same
listener; and for some tickets the same endpoint. -/
theorem selectHttpFastPath_refines_selectHttpRoute (cr : Crates) (s : Snapshot)
    (request : HttpFastPathRequest) (hport : request.port ≠ 0)
    (hnames : ∀ route ∈ s.httpRoutes, ∀ rule ∈ route.rules, ∀ backendRef ∈ rule.backendRefs,
      backendRef.weight ≠ 0 → s.Unambiguous backendRef.toBackendTarget)
    (now : Instant) (st : SelectionState) (selected : CompiledSelectedHttpBackend)
    (hselected : ((s.rebuildRuntimeIndexes cr).selectHttpFastPath cr request now st).1
      = some selected)
    (headers : BTreeMap (List String)) (sourceIp : Option String)
    (sessionResolver : SessionPersistence → Option PersistentSessionTarget) :
    (∀ st', ∃ route, (selectHttpRoute cr (s.rebuildRuntimeIndexes cr)
        (request.toMeta cr headers sourceIp) sessionResolver now st').1 = some route ∧
          FastPathAgrees selected route) ∧
      ∃ st' route, (selectHttpRoute cr (s.rebuildRuntimeIndexes cr)
        (request.toMeta cr headers sourceIp) sessionResolver now st').1 = some route ∧
          route.backend = some selected.backend ∧
          route.backendName = some selected.backendName :=
  (indexed_rebuild cr s).fastPath_refines hport (forall_backendRef_rebuild hnames)
    hselected headers sourceIp sessionResolver

def oneRuleSnapshot (backendRef : BackendRef) (clusterNamespace clusterName : String) : Snapshot :=
  { listeners :=
      [{ name := "http", port := 80, protocol := "HTTP", attachedRoutes := ["default/web"] }]
    httpRoutes :=
      [{ name := "web", «namespace» := "default", rules := [{ backendRefs := [backendRef] }] }]
    backends :=
      [{ name := clusterName
         «namespace» := clusterNamespace
         endpoints := [{ address := "10.0.0.1", port := 8080, healthy := true }] }] }

def getRequest : HttpFastPathRequest := ⟨none, 80, "/", "GET", false⟩

theorem selectHttpFastPath_refines_oneRule :
    ∃ selected, (((oneRuleSnapshot { «namespace» := "default", name := "app", port := 8080 }
        "default" "app:8080").rebuildRuntimeIndexes inertCrates).selectHttpFastPath inertCrates
          getRequest 0 {}).1 = some selected ∧
      ∀ st', ∃ route, (selectHttpRoute inertCrates ((oneRuleSnapshot
        { «namespace» := "default", name := "app", port := 8080 } "default"
          "app:8080").rebuildRuntimeIndexes inertCrates)
        (getRequest.toMeta inertCrates .empty none) (fun _ => none) 0 st').1 = some route ∧
          FastPathAgrees selected route := by
  have hselected : (((oneRuleSnapshot { «namespace» := "default", name := "app", port := 8080 }
      "default" "app:8080").rebuildRuntimeIndexes inertCrates).selectHttpFastPath inertCrates
        getRequest 0 {}).1
      = some ⟨"web", "default", some 0, .empty, "http", "HTTP",
          { address := "10.0.0.1", port := 8080, healthy := true }, "default/app:8080",
          defaultHttpPathMatch⟩ := by
    decide +kernel
  exact ⟨_, hselected, (selectHttpFastPath_refines_selectHttpRoute inertCrates _ getRequest
    (by decide) (by decide) 0 {} _ hselected .empty none fun _ => none).1⟩

/-- **A slash in a namespace parts the two paths**: `b/c` in the namespace `a` and `c` in the
namespace `a/b` have the same text. -/
theorem fastPath_selects_across_namespaces :
    (((oneRuleSnapshot { «namespace» := "a", name := "b/c", port := 8080 }
        "a/b" "c:8080").rebuildRuntimeIndexes inertCrates).selectHttpFastPath inertCrates
          getRequest 0 {}).1.map (fun selected => selected.backendName) = some "a/b/c:8080" ∧
      (selectHttpRoute inertCrates ((oneRuleSnapshot
        { «namespace» := "a", name := "b/c", port := 8080 } "a/b" "c:8080").rebuildRuntimeIndexes
          inertCrates) (getRequest.toMeta inertCrates .empty none) (fun _ => none) 0 {}).1.map
            (fun route => (route.backend, route.backendError))
        = some (none, some .invalidBackendRefs) := by
  decide +kernel

end NantianGateway
