import NantianGateway.Ir.Rebuild

/-!
# What the indexes answer

Every lookup of `Snapshot` has a body that reads an index and one that scans.  This file says, for
each, what the first answers in terms of the configuration.  The common assumption is `Coherent`: if
the flag is raised, the indexes are the ones of the configuration.
-/

namespace NantianGateway

open Text List Option

variable {cr : Crates} {s : Snapshot}

/-- If the flag is raised, the indexes are the ones of the configuration. -/
def Snapshot.Coherent (cr : Crates) (s : Snapshot) : Prop :=
  s.runtimeIndexesReady = true → s.Indexed cr

theorem Snapshot.Indexed.coherent (h : s.Indexed cr) : s.Coherent cr := fun _ => h

theorem Snapshot.coherent_of_not_ready (h : s.runtimeIndexesReady = false) : s.Coherent cr :=
  fun hready => (Bool.false_ne_true (h.symm.trans hready)).elim

/-! ## Listeners -/

variable {α : Type*} {ρ δ : Type}
  {l : List α} {gate : ρ → Option (Option MatchedListener × HostnameScore)}
  {rules : ρ → List δ}

theorem getElem?_of_mem_zipIdx {e : α × ℕ} (h : e ∈ l.zipIdx) : l[e.2]? = some e.1 :=
  mem_zipIdx_iff_getElem?.mp h

theorem pairwise_zipIdx (l : List α) : l.zipIdx.Pairwise fun a b => a.2 < b.2 := by
  rw [← pairwise_map (f := Prod.snd) (R := (· < ·)), zipIdx_map_snd]
  exact pairwise_lt_range'

namespace Snapshot

theorem listenerByName_eq (h : s.Coherent cr) (listenerName : String) :
    s.listenerByName listenerName
      = s.listeners.find? fun listener => listener.name = listenerName := by
  rw [listenerByName]
  by_cases hready : s.runtimeIndexesReady = true
  · have hfirst : (s.listeners.find? fun listener => listener.name = listenerName)
        = (s.listeners.zipIdx.find? fun entry => entry.1.name = listenerName).map Prod.fst := by
      rw [← zipIdx_map_fst 0 s.listeners, List.find?_map, zipIdx_map_fst]
      rfl
    rw [if_pos hready, (h hready).listenerNameIndex, buildListenerNameIndex, Table.ofFirst_apply,
      List.find?_map, hfirst]
    simp only [Function.comp_def]
    cases hfind : s.listeners.zipIdx.find? fun entry => entry.1.name = listenerName with
    | none => rfl
    | some entry => exact getElem?_of_mem_zipIdx (mem_of_find?_eq_some hfind)
  · rw [if_neg hready]

def onPort (requestPort : UInt32) (kind : ListenerKind) (entry : Listener × ℕ) : Bool :=
  matchesListenerKind entry.1 kind && (requestPort == 0 || entry.1.port == requestPort)

theorem Indexed.listenerIndices_eq (h : s.Indexed cr) (requestPort : UInt32)
    (kind : ListenerKind) :
    s.listenerIndices requestPort kind
      = (s.listeners.zipIdx.filter (onPort requestPort kind)).map Prod.snd := by
  have hall : (buildListenerIndices s.listeners kind)
      = (s.listeners.zipIdx.filter (onPort 0 kind)).map Prod.snd := by
    refine congrArg (List.map Prod.snd) (filter_congr fun entry _ => ?_)
    rw [onPort, beq_self_eq_true, Bool.true_or, Bool.and_true]
  have hport : (buildListenerPortIndex s.listeners kind requestPort).getD []
      = ((s.listeners.zipIdx.filter fun entry => matchesListenerKind entry.1 kind).filter
          fun entry => entry.1.port == requestPort).map Prod.snd := by
    rw [buildListenerPortIndex, Table.pushAll_getD, Table.valuesAt, List.filter_map, List.map_map]
    rfl
  by_cases hzero : requestPort = 0
  · subst hzero
    cases kind with
    | http => rw [listenerIndices, if_pos rfl, h.httpListenerIndices, hall]
    | grpc => rw [listenerIndices, if_pos rfl, h.grpcListenerIndices, hall]
  · have hp : (s.listeners.zipIdx.filter (onPort requestPort kind))
        = (s.listeners.zipIdx.filter fun entry => matchesListenerKind entry.1 kind).filter
          fun entry => entry.1.port == requestPort := by
      rw [List.filter_filter]
      refine filter_congr fun entry _ => ?_
      rw [onPort, beq_eq_false_iff_ne.mpr hzero, Bool.false_or, Bool.and_comm]
    cases kind with
    | http => rw [listenerIndices, if_neg hzero, h.httpListenerPortIndex, hport, hp]
    | grpc => rw [listenerIndices, if_neg hzero, h.grpcListenerPortIndex, hport, hp]

theorem visitListeners_eq (h : s.Coherent cr) (requestPort : UInt32)
    (kind : ListenerKind) :
    s.visitCandidateListeners requestPort kind
      = s.listeners.zipIdx.filter (onPort requestPort kind) := by
  rw [visitCandidateListeners]
  by_cases hready : s.runtimeIndexesReady = false
  · rw [if_pos hready]
    rfl
  · rw [if_neg hready, (h (Bool.not_eq_false _ ▸ hready)).listenerIndices_eq]
    exact Ascend.filterMap_getElem?_map_snd fun entry hentry =>
      getElem?_of_mem_zipIdx (mem_of_mem_filter hentry)

variable {requestHost : Option String} {requestPort : UInt32} {kind : ListenerKind}
  {item : MatchedListener}

theorem getElem?_of_mem_matchedListeners (h : s.Coherent cr)
    (hitem : item ∈ (s.matchedListeners requestHost requestPort kind).listeners) :
    s.listeners[item.listenerIndex]? = some item.listener := by
  rw [matchedListeners, Best.foldl_keepTies] at hitem
  obtain ⟨entry, hentry, hscore⟩ := mem_filterMap.mp (mem_of_mem_filter hitem)
  rw [visitListeners_eq h] at hentry
  obtain ⟨score, -, rfl⟩ := map_eq_some_iff.mp hscore
  exact getElem?_of_mem_zipIdx (mem_of_mem_filter hentry)

def attaches (routeNamespace routeName : String) (item : MatchedListener) : Bool :=
  item.listener.attachedRoutes.any fun attached =>
    routeAttachmentMatches attached routeNamespace routeName

theorem routeListenerMatch_eq (h : s.Coherent cr) (requestHost : Option String)
    (requestPort : UInt32) (kind : ListenerKind) (routeNamespace routeName : String) :
    s.routeListenerMatch (s.matchedListeners requestHost requestPort kind) routeNamespace routeName
      = if (s.matchedListeners requestHost requestPort kind).enforceAttachments = false then none
        else Best.maxBy MatchedListener.hostScore
          ((s.matchedListeners requestHost requestPort kind).listeners.filter
            (attaches routeNamespace routeName)) := by
  rw [routeListenerMatch]
  refine if_congr Iff.rfl rfl ?_
  by_cases hready : s.runtimeIndexesReady = true
  · rw [if_pos hready, (h hready).routeAttachmentListenerIndex]
    refine congrArg (Best.maxBy _) (filter_congr fun item hitem => ?_)
    rw [Bool.eq_iff_iff, RouteAttachmentListenerIndex.containsListener_fromListeners,
      getElem?_of_mem_matchedListeners h hitem]
    simp [attaches]
  · rw [if_neg hready]
    rfl

theorem matchedListeners_congr {t : Snapshot} (hs : s.Coherent cr) (ht : t.Coherent cr)
    (hlisteners : s.listeners = t.listeners) (requestHost : Option String) (requestPort : UInt32)
    (kind : ListenerKind) :
    s.matchedListeners requestHost requestPort kind
      = t.matchedListeners requestHost requestPort kind := by
  rw [matchedListeners, matchedListeners, visitListeners_eq hs, visitListeners_eq ht, hlisteners]

theorem getElem?_of_routeListenerMatch (s : Snapshot) (h : s.Coherent cr)
    {routeNamespace routeName : String}
    (hitem : s.routeListenerMatch (s.matchedListeners requestHost requestPort kind) routeNamespace
      routeName = some item) : s.listeners[item.listenerIndex]? = some item.listener := by
  rw [routeListenerMatch_eq h] at hitem
  split at hitem
  · cases hitem
  · exact getElem?_of_mem_matchedListeners h (mem_of_mem_filter (Best.maxBy_mem hitem))

end Snapshot

/-! ## Routes -/

theorem flatMap_filter_of_eq_nil {β : Type*} {f : α → List β} {p : α → Bool}
    (h : ∀ x ∈ l, p x = false → f x = []) : (l.filter p).flatMap f = l.flatMap f := by
  induction l with
  | nil => rfl
  | cons x l ih =>
    have hl := ih fun x hx => h x (mem_cons_of_mem _ hx)
    by_cases hx : p x = true
    · rw [filter_cons_of_pos hx, flatMap_cons, flatMap_cons, hl]
    · rw [filter_cons_of_neg hx, flatMap_cons, hl,
        h x mem_cons_self (Bool.not_eq_true _ ▸ hx), nil_append]

def RuleContext.map {ρ δ ρ' δ' : Type} (f : ρ → ρ') (g : δ → δ') (context : RuleContext ρ δ) :
    RuleContext ρ' δ' :=
  ⟨f context.route, context.routeIndex, context.listenerMatch, context.routeHost, g context.rule,
    context.ruleIndex⟩

theorem flatMap_routeContexts_map {ρ' δ' : Type} {f : ρ → ρ'} {g : δ → δ'}
    {gate' : ρ' → Option (Option MatchedListener × HostnameScore)} {rules' : ρ' → List δ'}
    (hgate : ∀ route, gate' (f route) = gate route)
    (hrules : ∀ route, rules' (f route) = (rules route).map g) (routes : List ρ) :
    (routes.map f).zipIdx.flatMap (routeContexts gate' rules')
      = (routes.zipIdx.flatMap (routeContexts gate rules)).map (RuleContext.map f g) := by
  rw [zipIdx_map, flatMap_map, map_flatMap]
  refine congrArg (routes.zipIdx.flatMap ·) (funext fun entry => ?_)
  rw [routeContexts, routeContexts, Prod.map_fst, hgate]
  cases gate entry.1 with
  | none => rfl
  | some passed =>
    simp only [hrules, zipIdx_map, List.map_map]
    rfl

theorem mem_routeContexts {entry : ρ × ℕ} {context : RuleContext ρ δ} :
    context ∈ routeContexts gate rules entry ↔
      gate entry.1 = some (context.listenerMatch, context.routeHost) ∧
        context.route = entry.1 ∧ context.routeIndex = entry.2 ∧
        (context.rule, context.ruleIndex) ∈ (rules entry.1).zipIdx := by
  rw [routeContexts]
  cases hgate : gate entry.1 with
  | none => simp
  | some passed =>
    obtain ⟨listenerMatch, routeHost⟩ := passed
    obtain ⟨route, routeIndex, contextMatch, contextHost, rule, ruleIndex⟩ := context
    simp only [List.mem_map, Option.some.injEq, Prod.mk.injEq, RuleContext.mk.injEq]
    grind

theorem of_mem_contexts {routes : List ρ} {context : RuleContext ρ δ}
    (h : context ∈ routes.zipIdx.flatMap (routeContexts gate rules)) :
    context.route ∈ routes ∧ (context.rule, context.ruleIndex) ∈ (rules context.route).zipIdx ∧
      gate context.route = some (context.listenerMatch, context.routeHost) := by
  obtain ⟨entry, hentry, hcontext⟩ := List.mem_flatMap.mp h
  obtain ⟨hgate, hroute, -, hrule⟩ := mem_routeContexts.mp hcontext
  rw [hroute]
  exact ⟨List.mem_of_getElem? (getElem?_of_mem_zipIdx hentry), hrule, hgate⟩

theorem flatMap_hostnameRouteCandidates {routes : List ρ} {hostnames : ρ → List String}
    {index : HostnameRouteIndex} {requestHost : Option String} {ready : Bool}
    (hindex : ready = true → index = buildHostnameRouteIndex (routes.map hostnames))
    (hgate : ∀ route, bestHostnameScore (hostnames route) requestHost = none → gate route = none) :
    (hostnameRouteCandidates routes index requestHost ready).flatMap (routeContexts gate rules)
      = routes.zipIdx.flatMap (routeContexts gate rules) := by
  have hpair : (if ready = false then List.range routes.length
      else index.candidateIndices requestHost).Pairwise (· < ·) := by
    split
    · exact pairwise_lt_range
    · exact index.pairwise_candidates requestHost
  rw [hostnameRouteCandidates, Ascend.filterMap_getElem?_eq _ hpair]
  refine flatMap_filter_of_eq_nil fun entry hentry hout => ?_
  have hroute : routes[entry.2]? = some entry.1 := getElem?_of_mem_zipIdx hentry
  have hnone : gate entry.1 = none := by
    by_contra hsome
    refine of_decide_eq_false hout ?_
    by_cases hready : ready = false
    · rw [if_pos hready, mem_range]
      exact (List.getElem?_eq_some_iff.mp hroute).1
    · rw [if_neg hready, hindex (Bool.not_eq_false _ ▸ hready)]
      have hi : (routes.map hostnames)[entry.2]? = some (hostnames entry.1) := by
        rw [List.getElem?_map, hroute, map_some]
      exact mem_candidates_build hi fun hscore => hsome (hgate entry.1 hscore)
  rw [routeContexts, hnone]

namespace Snapshot

variable {listeners : CandidateListeners} {requestHost : Option String}
  {routeNamespace routeName : String} {hostnames : List String} {parentRefs : List ParentRef}

theorem routeGate_eq_none_of_hostnames (h : bestHostnameScore hostnames requestHost = none) :
    s.routeGate listeners requestHost routeNamespace routeName hostnames parentRefs = none := by
  rw [routeGate, h]
  simp

theorem routeGate_eq_some {listenerMatch : Option MatchedListener} {routeHost : HostnameScore} :
    s.routeGate listeners requestHost routeNamespace routeName hostnames parentRefs
        = some (listenerMatch, routeHost) ↔
      s.routeListenerMatch listeners routeNamespace routeName = listenerMatch ∧
        (listeners.enforceAttachments = true → listenerMatch ≠ none) ∧
        bestHostnameScore hostnames requestHost = some routeHost := by
  rw [routeGate]
  simp only [acceptsFrontend_eq_true, Bool.not_true, any_false, Bool.false_eq_true, if_false]
  cases listeners.enforceAttachments <;> cases listenerMatch <;>
    cases s.routeListenerMatch listeners routeNamespace routeName <;> simp [and_comm]

theorem routeGate_congr {t : Snapshot} (hs : s.Coherent cr) (ht : t.Coherent cr)
    (hlisteners : s.listeners = t.listeners) (requestHost : Option String) (requestPort : UInt32)
    (kind : ListenerKind) (routeNamespace routeName : String) (hostnames : List String)
    (parentRefs : List ParentRef) :
    s.routeGate (s.matchedListeners requestHost requestPort kind) requestHost routeNamespace
        routeName hostnames parentRefs
      = t.routeGate (t.matchedListeners requestHost requestPort kind) requestHost routeNamespace
        routeName hostnames parentRefs := by
  have hmatch : s.routeListenerMatch (s.matchedListeners requestHost requestPort kind)
      routeNamespace routeName = t.routeListenerMatch
        (t.matchedListeners requestHost requestPort kind) routeNamespace routeName := by
    rw [routeListenerMatch_eq hs, routeListenerMatch_eq ht, matchedListeners_congr hs ht hlisteners]
  simp only [routeGate, acceptsFrontend_eq_true, hmatch]
  rw [matchedListeners_congr hs ht hlisteners]

theorem httpContexts_eq (h : s.Coherent cr) (request : RequestMeta) : s.httpRuleContexts request
      = s.httpRoutes.zipIdx.flatMap (routeContexts (s.httpRouteGate request) HttpRoute.rules) :=
  flatMap_hostnameRouteCandidates (fun hready => (h hready).httpRouteHostnameIndex)
    fun _ hscore => routeGate_eq_none_of_hostnames hscore

theorem grpcContexts_eq (h : s.Coherent cr) (request : RequestMeta) : s.grpcRuleContexts request
      = s.grpcRoutes.zipIdx.flatMap (routeContexts (s.grpcRouteGate request) GrpcRoute.rules) :=
  flatMap_hostnameRouteCandidates (fun hready => (h hready).grpcRouteHostnameIndex)
    fun _ hscore => routeGate_eq_none_of_hostnames hscore

/-! ## Service frontends -/

/-- No two listeners share a name. -/
def UniqueListeners (s : Snapshot) : Prop := (s.listeners.map Listener.name).Nodup

instance (s : Snapshot) : Decidable s.UniqueListeners := inferInstanceAs (Decidable (List.Nodup _))

theorem frontendFor_eq (h : s.Coherent cr) (hunique : s.UniqueListeners)
    {listener : Listener} (hmem : listener ∈ s.listeners) :
    s.serviceFrontendForListener listener = serviceFrontend listener := by
  rw [serviceFrontendForListener]
  by_cases hready : s.runtimeIndexesReady = true
  · rw [if_pos hready, (h hready).serviceFrontendIndex, buildServiceFrontendIndex]
    exact Table.ofEntries_of_agree serviceFrontend hmem fun other hother hname =>
      congrArg serviceFrontend (inj_on_of_nodup_map hunique hother hmem hname)
  · rw [if_neg hready]

/-- The service of a frontend has routes attached somewhere. -/
def serviceHasRoutes (s : Snapshot) (frontend : ServiceFrontendRef) : Bool :=
  s.listeners.any fun listener =>
    !listener.attachedRoutes.isEmpty && (serviceFrontend listener).any fun candidate =>
        candidate.namespace == frontend.namespace && candidate.name == frontend.name

theorem serviceFrontendHasAttachedRoutes_eq (h : s.Coherent cr) (hunique : s.UniqueListeners)
    (frontend : ServiceFrontendRef) :
    s.serviceFrontendHasAttachedRoutes frontend = s.serviceHasRoutes frontend := by
  rw [serviceFrontendHasAttachedRoutes, serviceHasRoutes, Bool.eq_iff_iff]
  by_cases hready : s.runtimeIndexesReady = true
  · rw [if_pos hready, (h hready).serviceFrontendAttachmentIndex,
      buildServiceFrontendAttachmentIndex, Table.any_mem_pushAll, mem_filterMap, List.any_eq_true]
    refine exists_congr fun listener => ?_
    rw [mem_filter, Bool.and_eq_true, and_assoc]
    cases serviceFrontend listener <;> simp
  · rw [if_neg hready, List.any_eq_true, List.any_eq_true]
    refine exists_congr fun listener => and_congr_right fun hmem => ?_
    rw [frontendFor_eq h hunique hmem]

/-! ## Clusters -/

theorem Indexed.clusterForService_eq (h : s.Indexed cr) («namespace» name : String)
    (port : UInt32) :
    s.backendClusterForServiceIndex «namespace» name port
      = (s.backends.zipIdx.reverse.find? fun entry =>
          backendClusterMatchesRef entry.1 «namespace» name port).map
            fun entry => (entry.2, entry.1) := by
  rw [backendClusterForServiceIndex, if_pos h.ready, h.backendServiceIndex,
    BackendServiceIndex.indexFor_build]
  cases hfind : s.backends.zipIdx.reverse.find? fun entry =>
    backendClusterMatchesRef entry.1 «namespace» name port with
  | none => rfl
  | some entry =>
    have hentry : s.backends[entry.2]? = some entry.1 :=
      getElem?_of_mem_zipIdx (mem_reverse.mp (mem_of_find?_eq_some hfind))
    rw [map_some, bind_some, hentry]
    rfl

theorem exists_clusterForService_eq (h : s.Coherent cr) («namespace» name : String)
    (port : UInt32) :
    ∃ entries : List (BackendCluster × ℕ), (∀ entry, entry ∈ entries ↔ entry ∈ s.backends.zipIdx) ∧
      s.backendClusterForServiceIndex «namespace» name port = (entries.find? fun entry =>
            backendClusterMatchesRef entry.1 «namespace» name port).map
              fun entry => (entry.2, entry.1) := by
  by_cases hready : s.runtimeIndexesReady = true
  · exact ⟨_, fun _ => mem_reverse, (h hready).clusterForService_eq _ _ _⟩
  · exact ⟨_, fun _ => Iff.rfl, by rw [backendClusterForServiceIndex, if_neg hready]⟩

variable {«namespace» name : String} {port : UInt32} {i : ℕ} {cluster : BackendCluster}

theorem clusterForService_some (h : s.Coherent cr)
    (hfound : s.backendClusterForServiceIndex «namespace» name port = some (i, cluster)) :
    s.backends[i]? = some cluster ∧
      backendClusterMatchesRef cluster «namespace» name port = true := by
  obtain ⟨entries, hentries, heq⟩ := exists_clusterForService_eq h «namespace» name port
  rw [heq] at hfound
  obtain ⟨entry, hfind, hentry⟩ := map_eq_some_iff.mp hfound
  obtain ⟨rfl, rfl⟩ := Prod.mk.inj hentry
  have hmatch := List.find?_some hfind
  exact ⟨getElem?_of_mem_zipIdx ((hentries _).mp (mem_of_find?_eq_some hfind)), hmatch⟩

theorem forall_mem_zipIdx {α : Type*} {l : List α} {p : α → Prop} :
    (∀ e ∈ l.zipIdx, p e.1) ↔ ∀ x ∈ l, p x := by
  rw [← List.forall_mem_map, zipIdx_map_fst]

theorem clusterForService_eq_none (h : s.Coherent cr) :
    s.backendClusterForServiceIndex «namespace» name port = none ↔
      ∀ cluster ∈ s.backends, backendClusterMatchesRef cluster «namespace» name port = false := by
  obtain ⟨entries, hentries, heq⟩ := exists_clusterForService_eq h «namespace» name port
  rw [heq, map_eq_none_iff, List.find?_eq_none, ← forall_mem_zipIdx (l := s.backends)]
  simp only [hentries, Bool.not_eq_true]

theorem nameForIndex_eq (h : s.Coherent cr) (hi : s.backends[i]? = some cluster) :
    s.backendNameForIndex i cluster = backendClusterName cluster := by
  rw [backendNameForIndex]
  by_cases hready : s.runtimeIndexesReady = true
  · rw [if_pos hready, (h hready).backendNames, List.getElem?_map, hi]
    rfl
  · rw [if_neg hready]

theorem Indexed.backendIndex_eq (h : s.Indexed cr) (name : String) : s.backendIndex name
      = (s.backends.zipIdx.reverse.find? fun entry => backendClusterName entry.1 = name).map
          Prod.snd := by
  rw [h.backendIndex, buildBackendIndex, Table.ofEntries_apply, zipIdx_map,
    ← map_reverse, List.find?_map, Option.map_map]
  rfl

theorem Indexed.exists_of_backendIndex (h : s.Indexed cr) (hi : s.backendIndex name = some i) :
    ∃ cluster, s.backends[i]? = some cluster := by
  rw [h.backendIndex_eq] at hi
  obtain ⟨entry, hentry, rfl⟩ := map_eq_some_iff.mp hi
  exact ⟨entry.1, getElem?_of_mem_zipIdx (mem_reverse.mp (mem_of_find?_eq_some hentry))⟩

theorem Indexed.clusterName_of_backendIndex (h : s.Indexed cr)
    (hi : s.backendIndex name = some i) (hcluster : s.backends[i]? = some cluster) :
    backendClusterName cluster = name := by
  rw [h.backendIndex_eq] at hi
  obtain ⟨entry, hentry, rfl⟩ := map_eq_some_iff.mp hi
  have hname := List.find?_some hentry
  have hat := getElem?_of_mem_zipIdx (mem_reverse.mp (mem_of_find?_eq_some hentry))
  obtain rfl := Option.some.inj (hcluster.symm.trans hat)
  exact of_decide_eq_true hname

/-! ## The routes of a stream listener -/

variable {listener : Listener}

theorem Indexed.streamListenerRouteIndex_eq (h : s.Indexed cr) (hmem : listener ∈ s.listeners)
    (hsame : ∀ other ∈ s.listeners, other.name = listener.name →
      attachedStreamRoutes s.streamRoutes other = attachedStreamRoutes s.streamRoutes listener) :
    s.streamListenerRouteIndex listener.name
      = if attachedStreamRoutes s.streamRoutes listener = [] then none
        else some (attachedStreamRoutes s.streamRoutes listener) := by
  have hentries : (s.listeners.filter fun listener =>
        attachedStreamRoutes s.streamRoutes listener ≠ []).map
          (fun listener => (listener.name, attachedStreamRoutes s.streamRoutes listener))
      = s.listeners.filterMap fun listener =>
          (if attachedStreamRoutes s.streamRoutes listener = [] then none
            else some (attachedStreamRoutes s.streamRoutes listener)).map
              fun indices => (listener.name, indices) := by
    rw [← filterMap_eq_map, filterMap_filter]
    refine filterMap_congr fun listener _ => ?_
    by_cases hnil : attachedStreamRoutes s.streamRoutes listener = []
    · simp [hnil]
    · simp [hnil]
  rw [h.streamListenerRouteIndex, buildStreamListenerRouteIndex, hentries]
  refine Table.ofEntries_of_agree (fun listener =>
    if attachedStreamRoutes s.streamRoutes listener = [] then none
      else some (attachedStreamRoutes s.streamRoutes listener)) hmem fun other hother hname => ?_
  rw [hsame other hother hname]

theorem mem_attachedRoutes {routes : List StreamRoute} {i : ℕ} :
    i ∈ attachedStreamRoutes routes listener ↔
      ∃ route, routes[i]? = some route ∧ listenerAttachesRoute listener route = true := by
  have hvalues : ∀ routeName, i ∈ (streamRouteIndices routes routeName).getD [] ↔
      ∃ route, routes[i]? = some route ∧ streamRouteName route = routeName := by
    intro routeName
    rw [streamRouteIndices, Table.pushAll_getD, Table.mem_valuesAt, List.mem_map]
    constructor
    · rintro ⟨entry, hentry, hpair⟩
      obtain ⟨hname, rfl⟩ := Prod.mk.inj hpair
      exact ⟨entry.1, getElem?_of_mem_zipIdx hentry, hname⟩
    · rintro ⟨route, hroute, rfl⟩
      exact ⟨(route, i), mem_zipIdx_iff_getElem?.mpr hroute, rfl⟩
  simp only [attachedStreamRoutes, mem_flatMap, hvalues, listenerAttachesRoute,
    List.any_eq_true, beq_iff_eq]
  constructor
  · rintro ⟨routeName, hattached, route, hroute, rfl⟩
    exact ⟨route, hroute, _, hattached, rfl⟩
  · rintro ⟨route, hroute, routeName, hattached, rfl⟩
    exact ⟨_, hattached, route, hroute, rfl⟩

end Snapshot
end NantianGateway
