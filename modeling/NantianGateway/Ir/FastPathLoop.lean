import NantianGateway.Ir.HttpLoop

/-!
# The fast path walks the same rules

On an indexed snapshot the fast path meets the rule contexts of the slow path, in the same order,
those left out that the plan did not compile or that reject the request: `foldl_routeStep` turns
its nested loops into one fold.  The request of the slow path is `toMeta`, with any headers and
source address.
-/

namespace NantianGateway

open Text List MatchedListener

def HttpFastPathRequest.toMeta (cr : Crates) (request : HttpFastPathRequest)
    (headers : BTreeMap (List String)) (sourceIp : Option String) : RequestMeta :=
  { RequestMeta.withPort cr request.host request.port request.path request.method headers with
    sourceIp := sourceIp }

def MatchedListener.toFast (item : MatchedListener) : FastMatchedListener :=
  ⟨item.listenerIndex, item.hostScore⟩

namespace Snapshot

variable {cr : Crates} {s : Snapshot}

/-! ## Listeners -/

theorem Indexed.visitFastListeners_eq (h : s.Indexed cr) (requestPort : UInt32) :
    s.visitFastCandidateListeners requestPort = s.visitCandidateListeners requestPort .http := by
  rw [visitListeners_eq h.coherent, visitFastCandidateListeners]
  by_cases hzero : s.runtimeIndexesReady = false ∨ requestPort = 0
  · rw [if_pos hzero]
    rfl
  · have hport : requestPort ≠ 0 := fun hp => hzero (Or.inr hp)
    have hindices := h.listenerIndices_eq requestPort .http
    rw [listenerIndices, if_neg hport] at hindices
    rw [if_neg hzero, hindices]
    exact Ascend.filterMap_getElem?_map_snd fun entry hentry =>
      getElem?_of_mem_zipIdx (mem_of_mem_filter hentry)

theorem fastBestScore_eq (listener : Listener) (requestHost : Option String) :
    fastBestHostnameScore listener.hostnames requestHost
      = listenerHostnameScore listener requestHost := by
  rw [listenerHostnameScore]
  by_cases hnil : listener.hostnames = []
  · rw [fastBestHostnameScore, if_pos hnil, if_pos hnil]
  · rw [if_neg hnil]
    rfl

theorem filterMap_fastBestScore (requestHost : Option String)
    (visited : List (Listener × ℕ)) :
    (visited.filterMap fun entry =>
        (fastBestHostnameScore entry.1.hostnames requestHost).map fun hostScore =>
          FastMatchedListener.mk entry.2 hostScore)
      = (scoredListeners requestHost visited).map toFast := by
  rw [scoredListeners, map_filterMap]
  refine filterMap_congr fun entry _ => ?_
  rw [fastBestScore_eq, Option.map_map]
  rfl

theorem Indexed.fastListeners_eq (h : s.Indexed cr) (requestHost : Option String)
    (requestPort : UInt32) :
    s.fastMatchedListeners requestHost requestPort
      = { «matches» := (s.matchedListeners requestHost requestPort .http).listeners.map
            toFast
          enforceAttachments :=
            (s.matchedListeners requestHost requestPort .http).enforceAttachments } := by
  have hkept : (((scoredListeners requestHost (s.visitCandidateListeners requestPort .http)).map
      toFast).foldl (Best.keepTies FastMatchedListener.hostScore) (none, [])).2
      = (s.matchedListeners requestHost requestPort .http).listeners.map toFast := by
    rw [Best.foldl_keepTies, matchedListeners, Best.foldl_keepTies, filter_map]
    refine congrArg (List.map _) (filter_congr fun item _ => decide_eq_decide.mpr ?_)
    simp [toFast]
  rw [fastMatchedListeners, h.visitFastListeners_eq]
  simp only [filterMap_fastBestScore, hkept]
  rfl

theorem Indexed.fastListenerMatch_eq (h : s.Indexed cr) (requestHost : Option String)
    (requestPort : UInt32) (routeNamespace routeName : String) :
    s.fastRouteListenerMatch (s.fastMatchedListeners requestHost requestPort) routeNamespace
        routeName
      = (s.routeListenerMatch (s.matchedListeners requestHost requestPort .http) routeNamespace
          routeName).map toFast := by
  rw [fastRouteListenerMatch, routeListenerMatch, h.fastListeners_eq]
  simp only
  by_cases henforce : (s.matchedListeners requestHost requestPort .http).enforceAttachments = false
  · rw [if_pos henforce, if_pos henforce, Option.map_none]
  · rw [if_neg henforce, if_neg henforce, if_pos h.ready, if_pos h.ready]
    cases hattached : s.routeAttachmentListenerIndex.listenersForRoute routeNamespace routeName with
    | none => simp [RouteAttachmentListenerIndex.containsListener, hattached]
    | some attached =>
      rw [Option.bind_some, filter_map, Best.maxBy_map]
      simp only [RouteAttachmentListenerIndex.containsListener, hattached, Option.any_some]
      rfl

/-! ## The compiled routes -/

theorem foldl_planRoute (l : List (HttpRoute × ℕ)) :
    (l.foldl s.planRoute ([], [])).2.length = l.length ∧
      (∀ p, some p ∈ (l.foldl s.planRoute ([], [])).2 →
        p < (l.foldl s.planRoute ([], [])).1.length) ∧
      ∀ k : ℕ, ((l.foldl s.planRoute ([], [])).2[k]?.join.bind fun p =>
        (l.foldl s.planRoute ([], [])).1[p]?) = l[k]?.bind s.compileHttpFastRoute := by
  induction l using List.reverseRecOn with
  | nil => exact ⟨rfl, fun p hp => (not_mem_nil hp).elim, fun k => rfl⟩
  | append_singleton l entry ih =>
    obtain ⟨hlength, hbound, hlookup⟩ := ih
    rw [foldl_append, foldl_cons, foldl_nil]
    generalize l.foldl s.planRoute ([], []) = plan at hlength hbound hlookup ⊢
    -- an earlier entry still points at its route when something is appended
    have hold : ∀ (c : List CompiledHttpFastRoute) (k : ℕ),
        (plan.2[k]?.join.bind fun p => (plan.1 ++ c)[p]?) = l[k]?.bind s.compileHttpFastRoute := by
      intro c k
      rw [← hlookup]
      cases hk : plan.2[k]?.join with
      | none => rfl
      | some p =>
        have hp : some p ∈ plan.2 := mem_of_getElem? (Option.join_eq_some_iff.mp hk)
        exact getElem?_append_left (hbound p hp)
    cases hcompile : s.compileHttpFastRoute entry with
    | none =>
      rw [planRoute, hcompile]
      refine ⟨by simp [hlength], fun p hp => hbound p (by simpa using hp), fun k => ?_⟩
      rcases lt_trichotomy k l.length with hk | rfl | hk
      · rw [getElem?_append_left (hlength ▸ hk), getElem?_append_left hk]
        exact hlookup k
      · simp [← hlength, hcompile]
      · rw [getElem?_eq_none (by simp [hlength]; omega), getElem?_eq_none (by simp; omega)]
        rfl
    | some compiled =>
      rw [planRoute, hcompile]
      refine ⟨by simp [hlength], fun p hp => ?_, fun k => ?_⟩
      · rcases mem_append.mp hp with hp | hp
        · rw [length_append]
          exact Nat.lt_add_right _ (hbound p hp)
        · obtain rfl := Option.some.inj (mem_singleton.mp hp)
          simp
      · rcases lt_trichotomy k l.length with hk | rfl | hk
        · rw [getElem?_append_left (hlength ▸ hk), getElem?_append_left hk]
          exact hold _ k
        · simp [← hlength, hcompile]
        · rw [getElem?_eq_none (by simp [hlength]; omega), getElem?_eq_none (by simp; omega)]
          rfl

theorem Indexed.candidateRoutes_eq (h : s.Indexed cr) (requestHost : Option String) :
    s.httpFastPath.candidateRoutes s requestHost
      = (hostnameRouteCandidates s.httpRoutes s.httpRouteHostnameIndex requestHost
          s.runtimeIndexesReady).filterMap s.compileHttpFastRoute := by
  have hready : ¬ s.runtimeIndexesReady = false := by rw [h.ready]; decide
  rw [HttpFastPathPlan.candidateRoutes, hostnameRouteCandidates, if_neg hready, if_neg hready,
    filterMap_filterMap]
  refine filterMap_congr fun i _ => ?_
  have hplan := (foldl_planRoute (s := s) s.httpRoutes.zipIdx).2.2 i
  rw [h.httpFastPath]
  refine hplan.trans ?_
  rw [getElem?_zipIdx, Nat.zero_add]

end Snapshot

/-! ## The contexts -/

section

variable (cr : Crates) (s : Snapshot) (request : HttpFastPathRequest)

/-- What the fast path makes of a rule context: nothing, if the plan has not compiled the
rule or the rule rejects the request. -/
def fastContextOf (context : RuleContext HttpRoute HttpRule) : Option FastContext :=
  (s.compileHttpFastRoute (context.route, context.routeIndex)).bind fun compiled =>
    (s.compileHttpFastRule (context.rule, context.ruleIndex)).bind fun rule =>
      (fastBestHttpRuleMatch cr rule (requestPathWithoutQuery request.path) request.method).map
        fun best =>
          ⟨compiled, context.listenerMatch.map toFast, context.routeHost, rule, best.1, best.2⟩

variable {cr s request}

theorem toMeta_host (headers : BTreeMap (List String)) (sourceIp : Option String) :
    (request.toMeta cr headers sourceIp).host = HttpFastPathPlan.requestHost request := rfl

theorem toMeta_port (hport : request.port ≠ 0) (headers : BTreeMap (List String))
    (sourceIp : Option String) : (request.toMeta cr headers sourceIp).port = request.port := by
  rw [HttpFastPathRequest.toMeta, RequestMeta.withPort]
  exact if_pos hport

section

variable (h : s.Indexed cr) (hport : request.port ≠ 0) (headers : BTreeMap (List String))
  (sourceIp : Option String)

include h hport headers sourceIp

theorem Snapshot.Indexed.httpRouteGate_toMeta (route : HttpRoute) :
    s.httpRouteGate (request.toMeta cr headers sourceIp) route
      = if (s.fastMatchedListeners (HttpFastPathPlan.requestHost request)
            request.port).enforceAttachments
          && (s.routeListenerMatch (s.matchedListeners (HttpFastPathPlan.requestHost request)
            request.port .http) route.namespace route.name).isNone then none
        else (fastBestHostnameScore route.hostnames (HttpFastPathPlan.requestHost request)).map
          fun routeHost => (s.routeListenerMatch (s.matchedListeners
            (HttpFastPathPlan.requestHost request) request.port .http) route.namespace route.name,
              routeHost) := by
  rw [Snapshot.httpRouteGate, Snapshot.routeGate, toMeta_host, toMeta_port hport,
    h.fastListeners_eq]
  simp only [Snapshot.acceptsFrontend_eq_true, Bool.not_true, Option.any_false,
    Bool.false_eq_true, if_false]
  rfl

theorem Snapshot.Indexed.fastRouteContexts_eq {entry : HttpRoute × ℕ}
    {compiled : CompiledHttpFastRoute} (hentry : entry ∈ s.httpRoutes.zipIdx)
    (hcompile : s.compileHttpFastRoute entry = some compiled) :
    HttpFastPathPlan.routeContexts cr s request compiled
      = some ((routeContexts (s.httpRouteGate (request.toMeta cr headers sourceIp)) HttpRoute.rules
          entry).filterMap (fastContextOf cr s request)) := by
  have hindex : compiled.routeIndex = entry.2 ∧
      compiled.eligibleRules = entry.1.rules.zipIdx.filterMap s.compileHttpFastRule := by
    rw [Snapshot.compileHttpFastRoute] at hcompile
    split at hcompile
    · cases hcompile
    · rw [← Option.some.inj hcompile]
      exact ⟨rfl, rfl⟩
  rw [HttpFastPathPlan.routeContexts, hindex.1, getElem?_of_mem_zipIdx hentry, Option.bind_some,
    routeContexts, h.httpRouteGate_toMeta hport]
  simp only [h.fastListenerMatch_eq, hindex.2]
  generalize hmatch : s.routeListenerMatch
    (s.matchedListeners (HttpFastPathPlan.requestHost request)
    request.port .http) entry.1.namespace entry.1.name = listenerMatch
  -- the frontend accepts every route, and the listener is one of the snapshot's
  have haccepted : HttpFastPathPlan.frontendAccepts s entry.1
      (listenerMatch.map toFast) = some true := by
    cases listenerMatch with
    | none => rfl
    | some item =>
      have hitem := s.getElem?_of_routeListenerMatch h.coherent hmatch
      simp [HttpFastPathPlan.frontendAccepts, toFast, hitem]
  rw [haccepted, Option.isNone_map]
  split
  · rfl
  · cases fastBestHostnameScore entry.1.hostnames (HttpFastPathPlan.requestHost request) with
    | none => rfl
    | some routeHost =>
      simp only [Option.map_some, Bool.true_eq_false, if_false, filterMap_filterMap, filterMap_map]
      refine congrArg some (filterMap_congr fun rule _ => ?_)
      simp only [fastContextOf, Function.comp_apply, hcompile, Option.bind_some]

/-- **The loops of the fast path are one loop over the contexts of the slow path.** -/
theorem Snapshot.Indexed.foldl_routeStep (now : Instant) (st : SelectionState) :
    (s.httpFastPath.candidateRoutes s (HttpFastPathPlan.requestHost request)).foldl
        (s.httpFastPath.routeStep cr s request now) (some none, st)
      = ((s.httpRuleContexts (request.toMeta cr headers sourceIp)).filterMap
          (fastContextOf cr s request)).foldl
            (Best.strictStep FastContext.score (s.httpFastPath.makeSelection s now))
              (some none, st) := by
  have hmem : ∀ entry ∈ hostnameRouteCandidates s.httpRoutes s.httpRouteHostnameIndex
      (HttpFastPathPlan.requestHost request) s.runtimeIndexesReady,
      entry ∈ s.httpRoutes.zipIdx := by
    intro entry hentry
    obtain ⟨i, -, hi⟩ := mem_filterMap.mp hentry
    obtain ⟨route, hroute, rfl⟩ := Option.map_eq_some_iff.mp hi
    exact mem_zipIdx_iff_getElem?.mpr hroute
  rw [h.candidateRoutes_eq, Snapshot.httpRuleContexts, toMeta_host, filterMap_flatMap]
  generalize hostnameRouteCandidates s.httpRoutes s.httpRouteHostnameIndex
    (HttpFastPathPlan.requestHost request) s.runtimeIndexesReady = entries at hmem ⊢
  generalize (some none, st) = acc
  induction entries generalizing acc with
  | nil => rfl
  | cons entry entries ih =>
    have ih := ih fun entry hentry => hmem entry (mem_cons_of_mem _ hentry)
    rw [flatMap_cons, foldl_append]
    cases hcompile : s.compileHttpFastRoute entry with
    | none =>
      have hnone : (routeContexts (s.httpRouteGate (request.toMeta cr headers sourceIp))
          HttpRoute.rules entry).filterMap (fastContextOf cr s request) = [] := by
        rw [filterMap_eq_nil_iff]
        intro context hcontext
        obtain ⟨-, hroute, hindex, -⟩ := mem_routeContexts.mp hcontext
        rw [fastContextOf, hroute, hindex, hcompile, Option.bind_none]
      rw [filterMap_cons_none hcompile, hnone, foldl_nil]
      exact ih acc
    | some compiled =>
      rw [filterMap_cons_some hcompile, foldl_cons, ih]
      refine congrArg (List.foldl _ · _) ?_
      rw [HttpFastPathPlan.routeStep]
      obtain ⟨best, st⟩ := acc
      cases best with
      | none => exact (Best.foldl_strictStep_none _ _ _ _).symm
      | some best =>
        rw [h.fastRouteContexts_eq hport headers sourceIp (hmem entry mem_cons_self) hcompile]

end

end

end NantianGateway
