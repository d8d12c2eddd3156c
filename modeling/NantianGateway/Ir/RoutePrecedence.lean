import NantianGateway.Ir.HttpLoop

/-!
# Which route wins

What `select_http_route` is for, said without its loops: among all the ways in which the
snapshot's rules accept the request (`RouteMatch`), the one with the greatest score, and among
equally good ones the rule that stands first.
-/

namespace NantianGateway

open Text Snapshot List Option

section

variable (cr : Crates) (s : Snapshot) (request : RequestMeta)
  (sessionResolver : SessionPersistence → Option PersistentSessionTarget) (now : Instant)

/-! ## The specification -/

/-- A rule accepts a request on a path, with a score: through one of its matches, or
because it has none. -/
def RuleAccepts (rule : HttpRule) (path : MatchedHttpPath) (score : HttpRuleScore) : Prop :=
  (rule.matches = [] ∧ path = defaultHttpPathMatch ∧ score = {}) ∨
    ∃ matcher ∈ rule.matches, matchesHttpRule cr matcher request = true ∧
      path = normalizeHttpPathMatch matcher ∧ score = httpMatchScore matcher

/-- An HTTP listener on the port of the request; port zero stands for any. -/
def ListensFor (listener : Listener) : Prop :=
  matchesListenerKind listener .http = true ∧ (request.port = 0 ∨ listener.port = request.port)

/-- A listener fits the host of the request with a score that no other one exceeds. -/
structure BestListener (listener : Listener) (score : HostnameScore) : Prop where
  mem : listener ∈ s.listeners
  listens : ListensFor request listener
  fits : listenerHostnameScore listener request.host = some score
  best : ∀ other ∈ s.listeners, ListensFor request other →
    ∀ score', listenerHostnameScore other request.host = some score' → score' ≤ score

/-- A route is reached through listeners of a score: through a best listener it is
attached to, or without a listener where nothing listens on the port. -/
def Reached (route : HttpRoute) (score : HostnameScore) : Prop :=
  ((∀ listener ∈ s.listeners, ¬ListensFor request listener) ∧ score = {}) ∨
    ∃ listener, BestListener s request listener score ∧
      ∃ attached ∈ listener.attachedRoutes,
        routeAttachmentMatches attached route.namespace route.name = true

end

/-- A rule of a route, and the path it accepts a request on. -/
structure RouteMatch where
  route : HttpRoute
  routeIndex : ℕ
  rule : HttpRule
  ruleIndex : ℕ
  matchedHttpPath : MatchedHttpPath
  score : HttpCandidateScore

/-- The place of a rule in the configuration. -/
def RouteMatch.place (way : RouteMatch) : ℕ ×ₗ ℕ := toLex (way.routeIndex, way.ruleIndex)

/-- A way for the snapshot to serve the request. -/
structure RouteMatch.Qualifies (cr : Crates) (s : Snapshot) (request : RequestMeta)
    (sessionResolver : SessionPersistence → Option PersistentSessionTarget) (now : Instant)
    (way : RouteMatch) : Prop where
  route_at : s.httpRoutes[way.routeIndex]? = some way.route
  rule_at : way.route.rules[way.ruleIndex]? = some way.rule
  reached : Reached s request way.route way.score.listenerHost
  hostnames : bestHostnameScore way.route.hostnames request.host = some way.score.routeHost
  accepts : RuleAccepts cr request way.rule way.matchedHttpPath way.score.rule
  admissible : s.ruleAdmissible now request sessionResolver way.rule = true

variable {cr : Crates} {s : Snapshot} {request : RequestMeta}
  {sessionResolver : SessionPersistence → Option PersistentSessionTarget} {now : Instant}

/-! ## The matches of a rule -/

theorem ruleAccepts_of_bestHttpRuleMatch {rule : HttpRule} {best : MatchedHttpPath × HttpRuleScore}
    (h : bestHttpRuleMatch cr rule request = some best) :
    RuleAccepts cr request rule best.1 best.2 := by
  rw [bestHttpRuleMatch] at h
  split at h
  · next hnil =>
    obtain rfl := Option.some.inj h
    exact .inl ⟨hnil, rfl, rfl⟩
  · obtain ⟨matcher, hmatcher, rfl⟩ := List.mem_map.mp (Best.maxBy_mem h)
    obtain ⟨hmem, hmatches⟩ := mem_filter.mp hmatcher
    exact .inr ⟨matcher, hmem, hmatches, rfl, rfl⟩

theorem exists_bestHttpRuleMatch {rule : HttpRule} {path : MatchedHttpPath}
    {score : HttpRuleScore} (h : RuleAccepts cr request rule path score) :
    ∃ best, bestHttpRuleMatch cr rule request = some best ∧ score ≤ best.2 := by
  rw [bestHttpRuleMatch]
  rcases h with ⟨hnil, -, rfl⟩ | ⟨matcher, hmem, hmatches, -, rfl⟩
  · exact ⟨_, if_pos hnil, le_refl _⟩
  · rw [if_neg (ne_nil_of_mem hmem)]
    exact Best.exists_maxBy (List.mem_map.mpr ⟨matcher, mem_filter.mpr ⟨hmem, hmatches⟩, rfl⟩)

/-! ## The listeners of a route -/

theorem onPort_eq_true {entry : Listener × ℕ} :
    onPort request.port .http entry = true ↔ ListensFor request entry.1 := by
  rw [onPort, Bool.and_eq_true, Bool.or_eq_true, beq_iff_eq, beq_iff_eq, ListensFor]

theorem enforceAttachments_eq_false (h : s.Coherent cr) :
    (s.matchedListeners request.host request.port .http).enforceAttachments = false ↔
      ∀ listener ∈ s.listeners, ¬ListensFor request listener := by
  rw [matchedListeners, visitListeners_eq h, decide_eq_false_iff_not, not_not, filter_eq_nil_iff]
  simp only [onPort_eq_true]
  exact forall_mem_zipIdx (p := fun listener => ¬ListensFor request listener)

theorem mem_matchedListeners (h : s.Coherent cr) {item : MatchedListener} :
    item ∈ (s.matchedListeners request.host request.port .http).listeners ↔
      s.listeners[item.listenerIndex]? = some item.listener ∧
        BestListener s request item.listener item.hostScore := by
  have hscored : ∀ item', item' ∈ scoredListeners request.host
      (s.visitCandidateListeners request.port .http) ↔
        s.listeners[item'.listenerIndex]? = some item'.listener ∧
          ListensFor request item'.listener ∧
          listenerHostnameScore item'.listener request.host = some item'.hostScore := by
    intro item'
    rw [scoredListeners, visitListeners_eq h, mem_filterMap]
    constructor
    · rintro ⟨entry, hentry, hscore⟩
      obtain ⟨hmem, honPort⟩ := mem_filter.mp hentry
      obtain ⟨score, hfits, rfl⟩ := map_eq_some_iff.mp hscore
      exact ⟨getElem?_of_mem_zipIdx hmem, onPort_eq_true.mp honPort, hfits⟩
    · rintro ⟨hat, hlist, hscore⟩
      refine ⟨(item'.listener, item'.listenerIndex), mem_filter.mpr
        ⟨mem_zipIdx_iff_getElem?.mpr hat, onPort_eq_true.mpr hlist⟩, ?_⟩
      rw [hscore]
      rfl
  rw [matchedListeners, Best.foldl_keepTies, mem_filter, hscored, decide_eq_true_eq]
  constructor
  · rintro ⟨⟨hat, hlist, hfits⟩, hbest⟩
    refine ⟨hat, mem_of_getElem? hat, hlist, hfits, ?_⟩
    intro other hother hothers score' hscore'
    obtain ⟨i, hi⟩ := mem_iff_getElem?.mp hother
    exact hbest ⟨i, other, score'⟩ ((hscored _).mpr ⟨hi, hothers, hscore'⟩)
  · rintro ⟨hat, hbest⟩
    refine ⟨⟨hat, hbest.listens, hbest.fits⟩, fun other hother => ?_⟩
    obtain ⟨hotherAt, hothers, hscore⟩ := (hscored _).mp hother
    exact hbest.best _ (mem_of_getElem? hotherAt) hothers _ hscore

theorem BestListener.score_unique {listener listener' : Listener} {score score' : HostnameScore}
    (h : BestListener s request listener score) (h' : BestListener s request listener' score') :
    score = score' :=
  le_antisymm (h'.best _ h.mem h.listens _ h.fits) (h.best _ h'.mem h'.listens _ h'.fits)

variable {listenerHost routeHost : HostnameScore} {route : HttpRoute}

theorem httpRouteGate_iff (h : s.Coherent cr) :
    (∃ listenerMatch, s.httpRouteGate request route = some (listenerMatch, routeHost) ∧
        (listenerMatch.map fun item => item.hostScore).getD {} = listenerHost) ↔
      Reached s request route listenerHost ∧
        bestHostnameScore route.hostnames request.host = some routeHost := by
  simp only [httpRouteGate, routeGate_eq_some, routeListenerMatch_eq h]
  by_cases henforce : (s.matchedListeners request.host request.port
      .http).enforceAttachments = false
  · rw [if_pos henforce]
    have hnone := (enforceAttachments_eq_false h).mp henforce
    constructor
    · rintro ⟨-, ⟨rfl, -, hhost⟩, rfl⟩
      exact ⟨.inl ⟨hnone, rfl⟩, hhost⟩
    · rintro ⟨⟨-, rfl⟩ | ⟨listener, hbest, -⟩, hhost⟩
      · exact ⟨none, ⟨rfl, fun htrue => (Bool.false_ne_true (henforce.symm.trans htrue)).elim,
          hhost⟩, rfl⟩
      · exact (hnone listener hbest.mem hbest.listens).elim
  · rw [if_neg henforce]
    have hsome := fun hnone => henforce ((enforceAttachments_eq_false h).mpr hnone)
    have hattach : ∀ item ∈ (s.matchedListeners request.host request.port .http).listeners.filter
        (attaches route.namespace route.name),
        BestListener s request item.listener item.hostScore ∧
          ∃ attached ∈ item.listener.attachedRoutes,
            routeAttachmentMatches attached route.namespace route.name = true := by
      intro item hitem
      obtain ⟨hitem, hattaches⟩ := mem_filter.mp hitem
      exact ⟨((mem_matchedListeners h).mp hitem).2, List.any_eq_true.mp hattaches⟩
    constructor
    · rintro ⟨listenerMatch, ⟨hmatch, hattached, hhost⟩, rfl⟩
      cases listenerMatch with
      | none => exact (hattached (Bool.not_eq_false _ ▸ henforce) rfl).elim
      | some item =>
        obtain ⟨hbest, hroute⟩ := hattach item (Best.maxBy_mem hmatch)
        exact ⟨.inr ⟨item.listener, hbest, hroute⟩, hhost⟩
    · rintro ⟨⟨hnone, -⟩ | ⟨listener, hbest, hroute⟩, hhost⟩
      · exact (hsome hnone).elim
      · obtain ⟨i, hi⟩ := mem_iff_getElem?.mp hbest.mem
        have hin : (⟨i, listener, listenerHost⟩ : MatchedListener) ∈
            (s.matchedListeners request.host request.port .http).listeners.filter
              (attaches route.namespace route.name) :=
          mem_filter.mpr ⟨(mem_matchedListeners h).mpr ⟨hi, hbest⟩, List.any_eq_true.mpr hroute⟩
        obtain ⟨item, hmatch, -⟩ := Best.exists_maxBy (f := MatchedListener.hostScore) hin
        exact ⟨some item, ⟨hmatch, fun _ => some_ne_none _, hhost⟩,
          (hattach item (Best.maxBy_mem hmatch)).1.score_unique hbest⟩

/-! ## The loop -/

theorem exists_context_iff (h : s.Coherent cr) {rule : HttpRule} {routeIndex ruleIndex : ℕ} :
    (∃ context ∈ s.httpRuleContexts request, context.route = route ∧
        context.routeIndex = routeIndex ∧ context.rule = rule ∧ context.ruleIndex = ruleIndex ∧
        context.listenerHost = listenerHost ∧ context.routeHost = routeHost) ↔
      s.httpRoutes[routeIndex]? = some route ∧ route.rules[ruleIndex]? = some rule ∧
        Reached s request route listenerHost ∧
        bestHostnameScore route.hostnames request.host = some routeHost := by
  rw [httpContexts_eq h, ← httpRouteGate_iff h]
  simp only [mem_flatMap, mem_routeContexts]
  constructor
  · rintro ⟨context, ⟨entry, hentry, hgate, hroute, hindex, hrule⟩, rfl, rfl, rfl, rfl, rfl, rfl⟩
    rw [hroute, hindex]
    exact ⟨getElem?_of_mem_zipIdx hentry, mem_zipIdx_iff_getElem?.mp hrule,
      context.listenerMatch, hgate, rfl⟩
  · rintro ⟨hroute, hrule, listenerMatch, hgate, rfl⟩
    exact ⟨⟨route, routeIndex, listenerMatch, routeHost, rule, ruleIndex⟩,
      ⟨(route, routeIndex), mem_zipIdx_iff_getElem?.mpr hroute, hgate, rfl, rfl,
        mem_zipIdx_iff_getElem?.mpr hrule⟩, rfl, rfl, rfl, rfl, rfl, rfl⟩

theorem pairwise_httpContexts (h : s.Coherent cr) : (s.httpRuleContexts request).Pairwise fun a b =>
      toLex (a.routeIndex, a.ruleIndex) < toLex (b.routeIndex, b.ruleIndex) := by
  rw [httpContexts_eq h, pairwise_flatMap]
  constructor
  · intro entry _
    rw [routeContexts]
    cases s.httpRouteGate request entry.1 with
    | none => exact List.Pairwise.nil
    | some passed =>
      refine pairwise_map.mpr ((pairwise_zipIdx entry.1.rules).imp fun hlt => ?_)
      exact Prod.Lex.toLex_lt_toLex.mpr (.inr ⟨rfl, hlt⟩)
  · refine (pairwise_zipIdx s.httpRoutes).imp fun hlt a ha b hb => ?_
    obtain ⟨-, -, hindexA, -⟩ := mem_routeContexts.mp ha
    obtain ⟨-, -, hindexB, -⟩ := mem_routeContexts.mp hb
    refine Prod.Lex.toLex_lt_toLex.mpr (.inl ?_)
    rwa [hindexA, hindexB]

def HttpCandidate.way (candidate : HttpCandidate) : RouteMatch :=
  ⟨candidate.context.route, candidate.context.routeIndex, candidate.context.rule,
    candidate.context.ruleIndex, candidate.matchedHttpPath, candidate.score⟩

variable (cr s request sessionResolver now) in
/-- The best way in which a rule in the loop accepts the request. -/
def contextWay (context : RuleContext HttpRoute HttpRule) : Option RouteMatch :=
  if s.ruleAdmissible now request sessionResolver context.rule then
    (bestHttpRuleMatch cr context.rule request).map fun best =>
      ⟨context.route, context.routeIndex, context.rule, context.ruleIndex, best.1,
        ⟨context.listenerHost, context.routeHost, best.2⟩⟩
  else none

theorem map_way_made (contexts : List (RuleContext HttpRoute HttpRule)) (st : SelectionState) :
    (Best.made (httpRuleCandidate cr s request sessionResolver now) contexts st).map
        HttpCandidate.way
      = contexts.filterMap (contextWay cr s request sessionResolver now) := by
  refine Best.map_made fun context _ st => ?_
  rw [httpRuleCandidate_fst, contextWay]
  split
  · rw [Option.map_map]
    rfl
  · rfl

variable {way : RouteMatch}

theorem contextWay_eq_some {context : RuleContext HttpRoute HttpRule}
    (hway : contextWay cr s request sessionResolver now context = some way) :
    s.ruleAdmissible now request sessionResolver context.rule = true ∧
      ∃ best, bestHttpRuleMatch cr context.rule request = some best ∧
        way = ⟨context.route, context.routeIndex, context.rule, context.ruleIndex, best.1,
          ⟨context.listenerHost, context.routeHost, best.2⟩⟩ := by
  rw [contextWay] at hway
  split at hway
  · next hadmissible =>
    obtain ⟨best, hbest, rfl⟩ := map_eq_some_iff.mp hway
    exact ⟨hadmissible, best, hbest, rfl⟩
  · cases hway

theorem pairwise_ways (h : s.Coherent cr) : ((s.httpRuleContexts request).filterMap
      (contextWay cr s request sessionResolver now)).Pairwise
        fun a b => a.place < b.place := by
  refine (pairwise_httpContexts h).filterMap _ fun a b hlt way hway way' hway' => ?_
  obtain ⟨-, _, -, rfl⟩ := contextWay_eq_some hway
  obtain ⟨-, _, -, rfl⟩ := contextWay_eq_some hway'
  exact hlt

theorem qualifies_of_mem_ways (h : s.Coherent cr)
    (hway : way ∈ (s.httpRuleContexts request).filterMap
      (contextWay cr s request sessionResolver now)) :
    way.Qualifies cr s request sessionResolver now := by
  obtain ⟨context, hcontext, hway⟩ := mem_filterMap.mp hway
  obtain ⟨hadmissible, best, hbest, rfl⟩ := contextWay_eq_some hway
  obtain ⟨hroute, hrule, hreached, hhost⟩ := (exists_context_iff h).mp
    ⟨context, hcontext, rfl, rfl, rfl, rfl, rfl, rfl⟩
  exact ⟨hroute, hrule, hreached, hhost, ruleAccepts_of_bestHttpRuleMatch hbest, hadmissible⟩

theorem RouteMatch.Qualifies.exists_mem_ways (h : s.Coherent cr)
    (hway : way.Qualifies cr s request sessionResolver now) :
    ∃ way' ∈ (s.httpRuleContexts request).filterMap (contextWay cr s request sessionResolver now),
      way.score ≤ way'.score ∧ way'.place = way.place := by
  obtain ⟨context, hcontext, hroute, hrouteIndex, hrule, hruleIndex, hlistener, hhost⟩ :=
    (exists_context_iff h).mpr ⟨hway.route_at, hway.rule_at, hway.reached, hway.hostnames⟩
  obtain ⟨best, hbest, hle⟩ := exists_bestHttpRuleMatch hway.accepts
  refine ⟨⟨context.route, context.routeIndex, context.rule, context.ruleIndex, best.1,
      ⟨context.listenerHost, context.routeHost, best.2⟩⟩, mem_filterMap.mpr
        ⟨context, hcontext, ?_⟩, ?_, ?_⟩
  · rw [contextWay, hrule, if_pos hway.admissible, hbest]
    rfl
  · rw [hlistener, hhost]
    exact CandidateScore.mk_le_mk hle
  · rw [RouteMatch.place, RouteMatch.place, hrouteIndex, hruleIndex]

/-- **The route that wins** has the greatest score of all the ways that qualify, and the earliest
place among equally good ones; nothing is returned exactly when nothing qualifies. -/
theorem selectHttpRoute_precedence (cr : Crates) (s : Snapshot) (h : s.Coherent cr)
    (request : RequestMeta) (sessionResolver : SessionPersistence → Option PersistentSessionTarget)
    (now : Instant) (st : SelectionState) :
    (∀ selected, (selectHttpRoute cr s request sessionResolver now st).1 = some selected →
      ∃ way : RouteMatch, way.Qualifies cr s request sessionResolver now ∧
        selected.routeName = way.route.name ∧ selected.routeNamespace = way.route.namespace ∧
        selected.ruleIndex = some way.ruleIndex ∧
        selected.matchedHttpPath = way.matchedHttpPath ∧
        ∀ other : RouteMatch, other.Qualifies cr s request sessionResolver now →
          other.score ≤ way.score ∧ (other.score = way.score → way.place ≤ other.place)) ∧
    ((selectHttpRoute cr s request sessionResolver now st).1 = none ↔
      ∀ way : RouteMatch, ¬way.Qualifies cr s request sessionResolver now) := by
  have hargmax : ((s.httpRuleContexts request).filterMap
      (contextWay cr s request sessionResolver now)).argmax RouteMatch.score
        = ((Best.made (httpRuleCandidate cr s request sessionResolver now)
            (s.httpRuleContexts request) st).argmax HttpCandidate.score).map HttpCandidate.way := by
    rw [← map_way_made _ st, Best.argmax_map]
    rfl
  rw [selectHttpRoute_eq]
  constructor
  · intro selected hselected
    obtain ⟨candidate, hcandidate, rfl⟩ := map_eq_some_iff.mp hselected
    rw [hcandidate, map_some] at hargmax
    refine ⟨candidate.way, qualifies_of_mem_ways h (argmax_mem hargmax), rfl, rfl, rfl, rfl,
      fun other hother => ?_⟩
    obtain ⟨way, hway, hle, hplace⟩ := hother.exists_mem_ways h
    have hbest := le_of_mem_argmax hway hargmax
    refine ⟨hle.trans hbest, fun heq => ?_⟩
    -- `way` stands at the place of `other` and is a maximum itself.
    rcases Best.eq_or_rel_of_argmax (pairwise_ways h) hargmax hway
      (le_antisymm hbest (heq ▸ hle)) with heq | hlt
    · rw [← hplace, heq]
    · exact hplace ▸ hlt.le
  · rw [map_eq_none_iff, ← map_eq_none_iff (f := HttpCandidate.way), ← hargmax, argmax_eq_none]
    constructor
    · intro hnil way hway
      obtain ⟨way', hmem, -⟩ := hway.exists_mem_ways h
      rw [hnil] at hmem
      exact not_mem_nil hmem
    · intro hnone
      exact eq_nil_iff_forall_not_mem.mpr fun way hway =>
        hnone way (qualifies_of_mem_ways h hway)

def twoRuleSnapshot : Snapshot :=
  { httpRoutes :=
      [{ name := "web"
         «namespace» := "default"
         rules :=
          [{ backendRefs := [{}] },
           { «matches» := [{ path := "/a", pathType := "Exact" }], backendRefs := [{}] }] }] }

theorem selectHttpRoute_precedence_twoRule :
    ∃ selected, (selectHttpRoute inertCrates twoRuleSnapshot { path := "/a" } (fun _ => none) 0
        {}).1 = some selected ∧ selected.ruleIndex = some 1 ∧
      ∃ way : RouteMatch,
        way.Qualifies inertCrates twoRuleSnapshot { path := "/a" } (fun _ => none) 0 ∧
        way.ruleIndex = 1 ∧ ∀ other : RouteMatch,
          other.Qualifies inertCrates twoRuleSnapshot { path := "/a" } (fun _ => none) 0 →
            other.score ≤ way.score := by
  have hselected : (selectHttpRoute inertCrates twoRuleSnapshot { path := "/a" } (fun _ => none) 0
      {}).1.map (fun selected => selected.ruleIndex) = some (some 1) := by
    decide +kernel
  obtain ⟨selected, hselected, hrule⟩ := map_eq_some_iff.mp hselected
  obtain ⟨way, hway, -, -, hindex, -, hbest⟩ := (selectHttpRoute_precedence inertCrates
    twoRuleSnapshot (coherent_of_not_ready rfl) _ _ 0 {}).1 selected hselected
  exact ⟨selected, hselected, hrule, way, hway, Option.some.inj (hindex.symm.trans hrule),
    fun other hother => (hbest other hother).1⟩

end NantianGateway
