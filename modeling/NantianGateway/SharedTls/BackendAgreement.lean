import NantianGateway.Ir.CompiledRefs
import NantianGateway.SharedTls.Connection

/-!
# The listener that was chosen and the backend that is selected

The TLS binds choose a listener because it has a route for the connection; the snapshot then
selects a backend behind it.  The two read hostnames, kinds of routes, the protocol HTTPS and
listeners of one name differently, unless `ReadsAlike`.
-/

namespace NantianGateway.SharedTls

open Text List Option Snapshot

/-! ## Canonical names -/

/-- A name that both crates leave as it is. -/
def CanonicalName (name : String) : Prop :=
  normalizeTlsServerName name = name ∧ normalizeHostRef name = name

instance (name : String) : Decidable (CanonicalName name) := inferInstanceAs (Decidable (_ ∧ _))

theorem eq_of_suffix_of_byteLen_eq {l t u : List Char} (ht : t <:+ l) (hu : u <:+ l)
    (hlen : byteLen t = byteLen u) : t = u := by
  have hsame : ∀ {a b : List Char}, a <:+ b → byteLen a = byteLen b → a = b := by
    rintro a b ⟨w, rfl⟩ hab
    have hw : byteLen w = 0 := by
      rw [byteLen_append] at hab
      omega
    cases w with
    | nil => rfl
    | cons c w =>
      have hpos := c.utf8Size_pos
      rw [byteLen_cons] at hw
      omega
  rcases suffix_or_suffix_of_suffix ht hu with h | h
  · exact hsame h hlen
  · exact (hsame h hlen.symm).symm

section

variable {pattern host : String}

theorem hostnameMatches_self (hpat : normalizeHostRef pattern = pattern) :
    NantianGateway.hostnameMatches pattern pattern = true := by
  cases hstrip : stripFront "*." pattern with
  | none =>
    rw [hostnameMatches_of_exact (by rw [hpat, hstrip]), hpat]
    exact eqIgnoreAsciiCase_iff.mpr rfl
  | some suffix =>
    refine (hostnameMatches_wildcard_iff (by rw [hpat, hstrip])).mpr ⟨['*'], suffix.toList, ?_, rfl⟩
    exact stripFront_eq_some_iff.mp hstrip

theorem hostnameMatches_of_shared (hpat : CanonicalName pattern) (hhost : CanonicalName host)
    (h : hostnameMatches pattern host = true) :
    NantianGateway.hostnameMatches pattern host = true := by
  rw [hostnameMatches, hpat.1, hhost.1] at h
  split at h
  · cases h
  split at h
  · next heq =>
    subst heq
    exact hostnameMatches_self hpat.2
  split at h
  · cases h
  · next suffix hstrip =>
    simp only [Bool.and_eq_true] at h
    obtain ⟨⟨-, hends⟩, hdot⟩ := h
    obtain ⟨t, ht⟩ := isSome_iff_exists.mp hdot
    obtain ⟨hlen, u, hu⟩ := afterDot_eq_some_iff.mp ht
    have hsame : t = suffix.toList :=
      eq_of_suffix_of_byteLen_eq ⟨u ++ ['.'], by simp [hu]⟩ (isSuffixOf_iff_suffix.mp hends) hlen
    exact (hostnameMatches_wildcard_iff (by rw [hpat.2, hstrip])).mpr ⟨u, t, hu, by rw [hsame]⟩

theorem streamHostScore_of_shared (hpat : CanonicalName pattern)
    (hhost : CanonicalName host) (h : hostnameMatchScore pattern host ≠ none) :
    streamHostnameMatchScore pattern host ≠ none := by
  rw [hostnameMatchScore, hpat.1] at h
  split at h
  · exact absurd rfl h
  cases hstrip : stripFront "*." pattern with
  | none =>
    rw [streamHostScore_of_exact (by rw [hpat.2, hstrip]), hpat.2]
    rw [hstrip] at h
    simp only at h
    split at h
    · next heq => simp [heq]
    · exact absurd rfl h
  | some suffix =>
    rw [streamHostScore_of_wildcard (by rw [hpat.2, hstrip]), hpat.2]
    rw [hstrip] at h
    simp only at h
    split at h
    · next hmatch => simp [hostnameMatches_of_shared hpat hhost hmatch]
    · exact absurd rfl h

end

/-! ## Rules and listeners -/

section

variable {serverName : Option String}

theorem routeHostnamesMatch_singleton {hostname : String}
    (h : routeHostnamesMatch [hostname] serverName = true) :
    ∃ name, serverName = some name ∧
      hostnameMatches hostname (normalizeTlsServerName name) = true := by
  rw [routeHostnamesMatch, if_neg (cons_ne_nil _ _)] at h
  cases serverName with
  | none => cases h
  | some name =>
    refine ⟨name, rfl, ?_⟩
    simp only [map_some] at h
    split at h
    · cases h
    · simpa using h

theorem bestStreamRuleMatch_of_shared {rule : StreamRule} {port : UInt32} {mode : TlsRouteMode}
    (hrule : ∀ item ∈ rule.matches, item.mode = mode → (item.port = 0 ∨ item.port = port) →
      item.sniHostname ≠ "" → ∀ name ∈ serverName,
        hostnameMatches item.sniHostname (normalizeTlsServerName name) = true →
          CanonicalName item.sniHostname ∧ CanonicalName name)
    (h : streamRuleMatchesListenerWithMode rule.matches port serverName mode = true) :
    bestStreamRuleMatchWithTlsMode rule.matches port serverName (some mode) ≠ none := by
  rw [streamRuleMatchesListenerWithMode] at h
  unfold bestStreamRuleMatchWithTlsMode
  split at h
  next hnil =>
    obtain rfl := eq_of_beq h
    rw [if_pos hnil]
    exact some_ne_none _
  next hne =>
    rw [if_neg hne]
    obtain ⟨item, hitem, hmatches⟩ := any_eq_true.mp h
    have haccepts : item.mode = mode ∧ matchesStreamRule item port serverName = true := by
      split at hmatches
      · cases hmatches
      next hmode =>
        rw [ne_eq, not_not] at hmode
        refine ⟨hmode, ?_⟩
        rw [matchesStreamRule]
        split at hmatches
        · cases hmatches
        next hport =>
          rw [if_neg hport]
          split at hmatches
          next hempty => rw [if_pos hempty]
          next hsni =>
            rw [if_neg hsni]
            obtain ⟨name, rfl, hhost⟩ := routeHostnamesMatch_singleton hmatches
            have hports : item.port = 0 ∨ item.port = port := by
              rwa [← not_ne_iff, ← not_ne_iff, ← not_and_or]
            obtain ⟨hsniName, htls, hir⟩ := hrule item hitem hmode hports hsni name rfl hhost
            rw [htls] at hhost
            rw [any_some, hir]
            exact hostnameMatches_of_shared hsniName ⟨htls, hir⟩ hhost
    rw [ne_eq, Best.maxBy_eq_none, map_eq_nil_iff, filter_eq_nil_iff]
    intro hnone
    refine hnone item (mem_filter.mpr ⟨hitem, ?_⟩) haccepts.2
    simpa using haccepts.1

theorem serverNameScore_of_shared {listener : Listener}
    (hlistener : ∀ hostname ∈ listener.hostnames, ∀ name ∈ serverName,
      hostnameMatchScore hostname (normalizeTlsServerName name) ≠ none →
        CanonicalName hostname ∧ CanonicalName name)
    (h : listenerHostnameScore listener.hostnames serverName ≠ none) :
    streamListenerServerNameScore listener serverName ≠ none := by
  rw [listenerHostnameScore] at h
  rw [streamListenerServerNameScore]
  split at h
  next hnil =>
    rw [if_pos hnil]
    exact some_ne_none _
  next hne =>
    rw [if_neg hne]
    cases serverName with
    | none => exact absurd rfl h
    | some name =>
      rw [bind_some] at h
      rw [map_some, bind_some]
      simp only at h
      split at h
      · exact absurd rfl h
      · rw [ne_eq, Best.maxBy_eq_none, filterMap_eq_nil_iff] at h ⊢
        intro hnone
        refine h fun hostname hmem => ?_
        by_contra hscore
        obtain ⟨hpattern, htls, hir⟩ :=
          hlistener hostname hmem name rfl hscore
        rw [htls] at hscore
        refine streamHostScore_of_shared hpattern ⟨htls, hir⟩ hscore ?_
        rw [← hir]
        exact hnone hostname hmem

end

/-! ## The plan finds a backend -/

structure MatchingRule (s : Snapshot) (listener : Listener) (serverName : Option String)
    (mode : TlsRouteMode) (route : StreamRoute) (rule : StreamRule) : Prop where
  route_mem : route ∈ s.streamRoutes
  attached : listenerAttachesRoute listener route = true
  kind : streamRouteKind route = some .tls
  rule_mem : rule ∈ route.rules
  accepts : bestStreamRuleMatchWithTlsMode rule.matches listener.port serverName (some mode) ≠ none

/-- A rule with a reference that counts, to a known cluster with an endpoint to offer. -/
def AvailableBackend (s : Snapshot) (rule : StreamRule) (now : Instant) : Prop :=
  ∃ backendRef ∈ rule.backendRefs, backendRef.weight ≠ 0 ∧
    backendRefIsRoutable backendRef.toBackendTarget = true ∧
    ∃ i cluster, s.backendIndex (Snapshot.requestedBackendName backendRef.toBackendTarget)
      = some i ∧
      s.backends[i]? = some cluster ∧
      s.eligibleEndpoints (backendClusterName cluster) now cluster ≠ []

def Going (s : Snapshot) (acc : Option (Option StreamFastCandidate) × SelectionState) : Prop :=
  ∃ best, acc.1 = some best ∧ ∀ candidate ∈ best,
    (s.streamRoutes[candidate.routeIndex]?).isSome = true

def Found (acc : Option (Option StreamFastCandidate) × SelectionState) : Prop :=
  ∃ candidate, acc.1 = some (some candidate)

section

variable {s : Snapshot} {listener : Listener} {serverName : Option String}
  {mode : TlsRouteMode} {now : Instant} {route : StreamRoute} {rule : StreamRule}

def Advances (s : Snapshot) (acc acc' : Option (Option StreamFastCandidate) × SelectionState) :
    Prop :=
  Going s acc' ∧ (Found acc → Found acc')

section

variable {α : Type*} {l : List α} {acc : Option (Option StreamFastCandidate) × SelectionState}
  {step : Option (Option StreamFastCandidate) × SelectionState → α →
    Option (Option StreamFastCandidate) × SelectionState}

theorem advances_foldl (hstep : ∀ acc, Going s acc → ∀ x ∈ l, Advances s acc (step acc x))
    (hacc : Going s acc) : Advances s acc (l.foldl step acc) :=
  List.foldlRecOn (motive := Advances s acc) l step ⟨hacc, id⟩ fun b hb x hx =>
    have hnext := hstep b hb.1 x hx
    ⟨hnext.1, hnext.2 ∘ hb.2⟩

theorem found_foldl (hstep : ∀ acc, Going s acc → ∀ x ∈ l, Advances s acc (step acc x)) {x : α}
    (hx : x ∈ l) (hfind : ∀ acc, Going s acc → Found (step acc x)) (hacc : Going s acc) :
    Found (l.foldl step acc) := by
  obtain ⟨u, v, rfl⟩ := append_of_mem hx
  rw [foldl_append, foldl_cons]
  have hbefore := advances_foldl (fun acc hacc y hy =>
    hstep acc hacc y (mem_append_left _ hy)) hacc
  have hafter := advances_foldl (fun acc hacc y hy => hstep acc hacc y
    (mem_append_right _ (mem_cons_of_mem _ hy))) (hstep _ hbefore.1 x hx).1
  exact hafter.2 (hfind _ hbefore.1)

end

theorem selectCompiled_ne_none (h : AvailableBackend s rule now) (st : SelectionState) :
    ∃ selected, (s.selectCompiledHttpFastBackend
      (rule.backendRefs.filterMap s.compileHttpFastBackendRef) now st).1 = some selected := by
  obtain ⟨backendRef, hmem, hweight, hroutable, i, cluster, hi, hcluster, hne⟩ := h
  have hcandidate := mem_compiledCandidates.mpr
    ⟨backendRef, hmem, hweight, hroutable, i, cluster, hi, hcluster, hne, rfl⟩
  exact ne_none_iff_exists'.mp (Snapshot.selectCompiled_ne_none (ne_nil_of_mem hcandidate) st)

variable {acc : Option (Option StreamFastCandidate) × SelectionState}
  {compiled : CompiledStreamFastRule} {routeIndex : ℕ}

theorem ruleStep_found (hroute : s.streamRoutes[routeIndex]? = some route)
    (hrule : route.rules[compiled.ruleIndex]? = some rule) (hgoing : Going s acc) :
    Advances s acc (StreamFastPathPlan.ruleStep s listener serverName (some mode) now route
        routeIndex acc compiled) ∧
      (bestStreamRuleMatchWithTlsMode rule.matches listener.port serverName (some mode) ≠ none →
        compiled.backendRefs = rule.backendRefs.filterMap s.compileHttpFastBackendRef →
        AvailableBackend s rule now →
        Found (StreamFastPathPlan.ruleStep s listener serverName
          (some mode) now route routeIndex acc compiled)) := by
  obtain ⟨best, hbest, hheld⟩ := hgoing
  have hgoing : Going s acc := ⟨best, hbest, hheld⟩
  rw [StreamFastPathPlan.ruleStep, hbest]
  simp only [hrule]
  cases hscore : bestStreamRuleMatchWithTlsMode rule.matches listener.port serverName
      (some mode) with
  | none => exact ⟨⟨hgoing, id⟩, fun hne => absurd rfl hne⟩
  | some score =>
    simp only
    split
    next hany =>
      obtain ⟨candidate, hcandidate, -⟩ := (Option.any_eq_true _ _).mp hany
      exact ⟨⟨hgoing, id⟩, fun _ _ _ => ⟨candidate, by rw [hbest, hcandidate]⟩⟩
    next =>
      cases hselected : (s.selectCompiledHttpFastBackend compiled.backendRefs now acc.2).1 with
      | none =>
        refine ⟨⟨⟨best, rfl, hheld⟩, fun hfound => ?_⟩, fun _ hrefs havailable => ?_⟩
        · obtain ⟨candidate, hcandidate⟩ := hfound
          exact ⟨candidate, hbest.symm.trans hcandidate⟩
        · obtain ⟨selected, hsome⟩ := selectCompiled_ne_none havailable acc.2
          rw [hrefs, hsome] at hselected
          cases hselected
      | some selected =>
        refine ⟨⟨⟨_, rfl, ?_⟩, fun _ => ⟨_, rfl⟩⟩, fun _ _ _ => ⟨_, rfl⟩⟩
        rintro candidate ⟨⟩
        rw [hroute]
        rfl

variable {cr : Crates}

theorem rule_of_compiled (h : compiled ∈ route.rules.zipIdx.filterMap s.compileStreamFastRule) :
    ∃ rule, route.rules[compiled.ruleIndex]? = some rule ∧
      compiled.backendRefs = rule.backendRefs.filterMap s.compileHttpFastBackendRef := by
  obtain ⟨entry, hentry, hcompile⟩ := mem_filterMap.mp h
  rw [compileStreamFastRule] at hcompile
  split at hcompile
  · cases hcompile
  · obtain rfl := Option.some.inj hcompile
    exact ⟨entry.1, getElem?_of_mem_zipIdx hentry, rfl⟩

theorem exists_compiled_of_available (hrule : rule ∈ route.rules)
    (havailable : AvailableBackend s rule now) :
    ∃ compiled ∈ route.rules.zipIdx.filterMap s.compileStreamFastRule,
      route.rules[compiled.ruleIndex]? = some rule ∧
        compiled.backendRefs = rule.backendRefs.filterMap s.compileHttpFastBackendRef := by
  obtain ⟨i, hi⟩ := getElem?_of_mem hrule
  have hrefs : (rule.backendRefs.filterMap s.compileHttpFastBackendRef).isEmpty = false := by
    obtain ⟨backendRef, hmem, hweight, hroutable, j, cluster, hj, hcluster, -⟩ := havailable
    have hcompile := compileFastRef_eq_some.mpr ⟨hweight, hroutable, j, cluster, hj, hcluster, rfl⟩
    exact isEmpty_eq_false_iff.mpr (ne_nil_of_mem (mem_filterMap.mpr ⟨backendRef, hmem, hcompile⟩))
  refine ⟨⟨i, rule.backendRefs.filterMap s.compileHttpFastBackendRef⟩,
    mem_filterMap.mpr ⟨(rule, i), mem_zipIdx_iff_getElem?.mpr hi, ?_⟩, hi, rfl⟩
  rw [compileStreamFastRule]
  simp only [hrefs, Bool.false_eq_true, if_false]

theorem routeStep_found (hs : s.Indexed cr)
    (hroute : s.streamRoutes[routeIndex]? = some route) (hgoing : Going s acc) : Advances s acc
        (s.streamFastPath.routeStep s listener .tls serverName (some mode) now acc routeIndex) ∧
      (∀ rule, MatchingRule s listener serverName mode route rule → AvailableBackend s rule now →
        Found (s.streamFastPath.routeStep s listener .tls serverName (some mode) now acc
          routeIndex)) := by
  obtain ⟨best, hbest, hheld⟩ := hgoing
  have hgoing : Going s acc := ⟨best, hbest, hheld⟩
  have hplan : s.streamFastPath.routes[routeIndex]?.join = s.compileStreamFastRoute route := by
    rw [hs.streamFastPath, buildStreamFastPathPlan, getElem?_map, hroute]
    rfl
  have hrules : ∀ acc, Going s acc →
      ∀ compiled ∈ route.rules.zipIdx.filterMap s.compileStreamFastRule,
        Advances s acc (StreamFastPathPlan.ruleStep s listener serverName (some mode) now route
          routeIndex acc compiled) := by
    intro acc hacc compiled hcompiled
    obtain ⟨rule, hrule, -⟩ := rule_of_compiled hcompiled
    exact (ruleStep_found hroute hrule hacc).1
  rw [StreamFastPathPlan.routeStep, hbest]
  simp only [hroute, hplan, compileStreamFastRoute]
  split
  next hkind => exact ⟨⟨hgoing, id⟩, fun rule hrule _ => absurd hrule.kind hkind⟩
  next hkind =>
    split
    next hnone =>
      refine ⟨⟨hgoing, id⟩, fun rule hrule havailable => ?_⟩
      obtain ⟨compiled, hmem, -⟩ := exists_compiled_of_available hrule.rule_mem havailable
      split at hnone
      next hempty => exact absurd (isEmpty_iff.mp hempty) (ne_nil_of_mem hmem)
      next => cases hnone
    next compiledRoute hsome =>
      split at hsome
      · cases hsome
      obtain rfl := Option.some.inj hsome
      refine ⟨advances_foldl hrules hgoing, fun rule hrule havailable => ?_⟩
      obtain ⟨compiled, hmem, hindex, hrefs⟩ :=
        exists_compiled_of_available hrule.rule_mem havailable
      exact found_foldl hrules hmem (fun acc hacc =>
        (ruleStep_found hroute hindex hacc).2 hrule.accepts hrefs havailable) hgoing

theorem select_ne_none_of_available (hs : s.Indexed cr) (hmem : listener ∈ s.listeners)
    (hsame : ∀ other ∈ s.listeners, other.name = listener.name →
      attachedStreamRoutes s.streamRoutes other = attachedStreamRoutes s.streamRoutes listener)
    (hrule : MatchingRule s listener serverName mode route rule)
    (havailable : AvailableBackend s rule now) (st : SelectionState) :
    (s.streamFastPath.select s listener .tls serverName (some mode) now st).1 ≠ none := by
  obtain ⟨i, hi⟩ := getElem?_of_mem hrule.route_mem
  have hattached : i ∈ attachedStreamRoutes s.streamRoutes listener :=
    mem_attachedRoutes.mpr ⟨route, hi, hrule.attached⟩
  have hsteps : ∀ acc, Going s acc → ∀ j ∈ attachedStreamRoutes s.streamRoutes listener,
      Advances s acc
        (s.streamFastPath.routeStep s listener .tls serverName (some mode) now acc j) := by
    intro acc hacc j hj
    obtain ⟨route', hroute', -⟩ := mem_attachedRoutes.mp hj
    exact (routeStep_found hs hroute' hacc).1
  have hst : Going s (some none, st) := ⟨none, rfl, fun _ h => by cases h⟩
  obtain ⟨best, hbest, hheld⟩ := (advances_foldl hsteps hst).1
  obtain ⟨candidate, hcandidate⟩ := found_foldl hsteps hattached
    (fun acc hacc => (routeStep_found hs hi hacc).2 rule hrule havailable) hst
  obtain rfl := Option.some.inj (hbest.symm.trans hcandidate)
  obtain ⟨found, hfound⟩ := isSome_iff_exists.mp (hheld candidate rfl)
  rw [StreamFastPathPlan.select, hs.streamListenerRouteIndex_eq hmem hsame,
    if_neg (ne_nil_of_mem hattached)]
  simp [hcandidate, hfound]

end

/-! ## The choice and the selection -/

/-- The listener that is chosen for a mode because of a TLS route: it is passed through to, or its
terminated connection is proxied. -/
def ChosenFor (s : Snapshot) (listenerNames : List String) (serverName : Option String)
    (mode : TlsRouteMode) (m : SharedTlsListenerMatch) : Prop :=
  match mode with
  | .passthrough =>
    selectListenerMatch s listenerNames serverName listenerHasMatchingPassthroughTlsRoute
      = some m ∧ m.hasRoute = true
  | .terminate =>
    selectListenerMatch s listenerNames serverName listenerHasMatchingTerminateRoute = some m ∧
      terminateMatchUsesTlsStreamRoute s m.listenerName serverName = true

/-- **A configuration that both crates read alike**, as far as a listener, a connection and a mode
are concerned. -/
structure ReadsAlike (s : Snapshot) (listener : Listener) (serverName : Option String)
    (mode : TlsRouteMode) : Prop where
  /-- Listeners of its name attach the same routes. -/
  routes : ∀ other ∈ s.listeners, other.name = listener.name →
    attachedStreamRoutes s.streamRoutes other = attachedStreamRoutes s.streamRoutes listener
  protocol : routeKindForListener listener.protocol = some .tls
  /-- A hostname that accepts the connection in the choice is canonical, and so is the name. -/
  hostnames : ∀ hostname ∈ listener.hostnames, ∀ name ∈ serverName,
    hostnameMatchScore hostname (normalizeTlsServerName name) ≠ none →
      CanonicalName hostname ∧ CanonicalName name
  /-- A kind that only the choice knows has no rule for the connection. -/
  kinds : ∀ route ∈ s.streamRoutes, listenerAttachesRoute listener route = true →
    route.kind = "ROUTE_KIND_TLSROUTE" → ∀ rule ∈ route.rules,
      streamRuleMatchesListenerWithMode rule.matches listener.port serverName mode = false
  sniHostnames : ∀ route ∈ s.streamRoutes, listenerAttachesRoute listener route = true →
    ∀ rule ∈ route.rules, ∀ item ∈ rule.matches, item.mode = mode →
      (item.port = 0 ∨ item.port = listener.port) → item.sniHostname ≠ "" →
      ∀ name ∈ serverName, hostnameMatches item.sniHostname (normalizeTlsServerName name) = true →
        CanonicalName item.sniHostname ∧ CanonicalName name

section

variable {s : Snapshot} {listenerNames : List String} {serverName : Option String}
  {mode : TlsRouteMode} {m : SharedTlsListenerMatch} {listener : Listener}

theorem exists_listener_of_chosenFor (h : ChosenFor s listenerNames serverName mode m) :
    ∃ listener, s.listeners.find? (fun listener => listener.name = m.listenerName) = some listener ∧
      listenerHostnameScore listener.hostnames serverName ≠ none ∧
      listenerHasMatchingTlsRouteWithMode s listener serverName mode = true := by
  have hcandidate : ∀ {hasRoute : Snapshot → Listener → Option String → Bool},
      selectListenerMatch s listenerNames serverName hasRoute = some m →
      ∃ listener, s.listeners.find? (fun listener => listener.name = m.listenerName)
          = some listener ∧ listenerHostnameScore listener.hostnames serverName ≠ none ∧
        m.hasRoute = hasRoute s listener serverName := by
    intro hasRoute hselect
    obtain ⟨name, -, hname⟩ := (bestMatch_of_select hselect).named
    obtain ⟨listener, hfind, hscore⟩ := bind_eq_some_iff.mp hname
    obtain ⟨score, hsome, rfl⟩ := map_eq_some_iff.mp hscore
    have hnamed : listener.name = name := of_decide_eq_true
      (find?_some (p := fun listener : Listener => decide (listener.name = name)) hfind)
    exact ⟨listener, by rw [hnamed, hfind], by rw [hsome]; exact some_ne_none _, rfl⟩
  cases mode with
  | passthrough =>
    obtain ⟨listener, hfind, hscore, hroute⟩ := hcandidate h.1
    exact ⟨listener, hfind, hscore, hroute.symm.trans h.2⟩
  | terminate =>
    obtain ⟨listener, hfind, hscore, -⟩ := hcandidate h.1
    have huses := h.2
    rw [terminateMatchUsesTlsStreamRoute, hfind, any_some] at huses
    exact ⟨listener, hfind, hscore, huses⟩

theorem streamRouteKind_of_isTlsRouteKind {route : StreamRoute}
    (h : isTlsRouteKind route.kind = true) (hspelling : route.kind ≠ "ROUTE_KIND_TLSROUTE") :
    streamRouteKind route = some .tls := by
  have hkind := of_decide_eq_true h
  simp only [mem_cons, not_mem_nil, or_false] at hkind
  rw [streamRouteKind]
  rcases hkind with hkind | hkind | hkind | hkind
  · simp [hkind]
  · simp [hkind]
  · simp [hkind]
  · exact absurd hkind hspelling

theorem ReadsAlike.matchingRule_of_route (hread : ReadsAlike s listener serverName mode)
    (h : listenerHasMatchingTlsRouteWithMode s listener serverName mode = true) :
    ∃ route rule, MatchingRule s listener serverName mode route rule := by
  obtain ⟨routeKey, hkey, hfound⟩ := any_eq_true.mp h
  obtain ⟨route, hmem, hfound⟩ := any_eq_true.mp hfound
  rw [Bool.and_eq_true, Bool.and_eq_true] at hfound
  obtain ⟨⟨hname, hkind⟩, hrules⟩ := hfound
  obtain ⟨rule, hrule, haccepts⟩ := any_eq_true.mp hrules
  have hattached : listenerAttachesRoute listener route = true :=
    any_eq_true.mpr ⟨routeKey, hkey, hname⟩
  have hspelled : route.kind ≠ "ROUTE_KIND_TLSROUTE" := by
    intro hroute
    rw [hread.kinds route hmem hattached hroute rule hrule] at haccepts
    cases haccepts
  exact ⟨route, rule, hmem, hattached, streamRouteKind_of_isTlsRouteKind hkind hspelled, hrule,
    bestStreamRuleMatch_of_shared (hread.sniHostnames route hmem hattached rule hrule) haccepts⟩

end

def tunnelSnapshot : Snapshot :=
  Snapshot.rebuildRuntimeIndexes inertCrates
    { listeners :=
        [{ name := "gw/pass", protocol := "TLS", port := 443, hostnames := ["a.example.org"],
           attachedRoutes := ["gw/tunnel"] }]
      streamRoutes :=
        [{ name := "tunnel", «namespace» := "gw", kind := "TLSRoute"
           rules := [{ backendRefs := [{ «namespace» := "gw", name := "svc", port := 443 }] }] }]
      backends :=
        [{ name := "svc:443", «namespace» := "gw"
           endpoints := [{ address := "10.0.0.1", port := 443, healthy := true }] }] }

end NantianGateway.SharedTls
