import NantianGateway.Ir.ResolvesAlike

/-!
# Selecting with and without indexes

With rebuilt indexes, and with the flag down, a snapshot visits the same HTTP and gRPC rules in the
same order and resolves references alike.  A rebuild also compiles regular expressions, so the rules
visited correspond if the routes do not come with expressions compiled from something else.
-/

namespace NantianGateway

open Text List Option

section

variable (cr : Crates)

/-! ## Compiled matchers -/

/-- A compiled expression is missing or compiled from the pattern beside it. -/
def Regex.Fresh (compiled : Option Regex) (pattern : String) (enabled : Bool) : Prop :=
  compiled = none ∨ compiled = compileRegex cr pattern enabled

structure HttpMatch.Fresh (matcher : HttpMatch) : Prop where
  path : Regex.Fresh cr matcher.compiledPathRegex matcher.path
    (matcher.pathType == "RegularExpression")
  headers : ∀ item ∈ matcher.headers,
    Regex.Fresh cr item.compiledRegex item.value (item.matchType == "RegularExpression")
  queryParams : ∀ item ∈ matcher.queryParams,
    Regex.Fresh cr item.compiledRegex item.value (item.matchType == "RegularExpression")

structure GrpcMatch.Fresh (matcher : GrpcMatch) : Prop where
  service : Regex.Fresh cr matcher.compiledServiceRegex matcher.service
    (matcher.matchType == "RegularExpression" && matcher.service != "")
  method : Regex.Fresh cr matcher.compiledMethodRegex matcher.method
    (matcher.matchType == "RegularExpression" && matcher.method != "")
  headers : ∀ item ∈ matcher.headers,
    Regex.Fresh cr item.compiledRegex item.value (item.matchType == "RegularExpression")

/-- No route comes with an expression compiled from something else than its pattern. -/
structure Snapshot.FreshMatchers (s : Snapshot) : Prop where
  http : ∀ route ∈ s.httpRoutes, ∀ rule ∈ route.rules, ∀ matcher ∈ rule.matches,
    matcher.Fresh cr
  grpc : ∀ route ∈ s.grpcRoutes, ∀ rule ∈ route.rules, ∀ matcher ∈ rule.matches,
    matcher.Fresh cr

variable {cr}

variable {compiled : Option Regex}

theorem Regex.Fresh.regexMatches_eq {pattern : String}
    (h : Regex.Fresh cr compiled pattern true) (candidate : String) :
    regexMatches cr (compileRegex cr pattern true) pattern candidate
      = regexMatches cr compiled pattern candidate := by
  rcases h with rfl | rfl
  · rw [compileRegex, Bool.true_and]
    by_cases hvalid : cr.regexValid pattern = true
    · rw [if_pos hvalid, regexMatches, regexMatches, hvalid, Bool.true_and]
    · rw [if_neg hvalid]
  · rfl

variable {expected matchType : String}

theorem matchesValues_compile
    (h : Regex.Fresh cr compiled expected (matchType == "RegularExpression"))
    (actual : Option (List String)) : matchesValues cr expected matchType actual
        (compileRegex cr expected (matchType == "RegularExpression"))
      = matchesValues cr expected matchType actual compiled := by
  cases actual with
  | none => rfl
  | some values =>
    by_cases htype : matchType = "RegularExpression"
    · subst htype
      exact congrArg values.any (funext fun value => h.regexMatches_eq value)
    · rw [matchesValues, matchesValues]
      all_goals exact htype

theorem lookupMatchName_normalizeMatchName (name : String) :
    lookupMatchName (normalizeMatchName name) = lookupMatchName name := by
  rw [lookupMatchName_eq, lookupMatchName_eq, normalizeMatchName_eq, asciiLower_asciiLower]

theorem matchesHeaders_compile {expected : List HeaderMatch}
    (h : ∀ item ∈ expected,
      Regex.Fresh cr item.compiledRegex item.value (item.matchType == "RegularExpression"))
    (actual : BTreeMap (List String)) :
    matchesHeaders cr (expected.map (HeaderMatch.compileRuntimeState cr)) actual
      = matchesHeaders cr expected actual := by
  rw [matchesHeaders, matchesHeaders, List.all_map]
  rw [Bool.eq_iff_iff, List.all_eq_true, List.all_eq_true]
  refine forall₂_congr fun item hitem => ?_
  rw [Function.comp_apply, HeaderMatch.compileRuntimeState, lookupMatchName_normalizeMatchName,
    matchesValues_compile (h item hitem)]

theorem matchesParams_compile {expected : List QueryMatch}
    (h : ∀ item ∈ expected,
      Regex.Fresh cr item.compiledRegex item.value (item.matchType == "RegularExpression"))
    (actual : BTreeMap (List String)) :
    matchesQueryParams cr (expected.map (QueryMatch.compileRuntimeState cr)) actual
      = matchesQueryParams cr expected actual := by
  rw [matchesQueryParams, matchesQueryParams, List.all_map]
  rw [Bool.eq_iff_iff, List.all_eq_true, List.all_eq_true]
  refine forall₂_congr fun item hitem => ?_
  rw [Function.comp_apply, QueryMatch.compileRuntimeState, lookupMatchName_normalizeMatchName,
    matchesValues_compile (h item hitem)]

theorem matchesHttpRule_compile {matcher : HttpMatch} (h : matcher.Fresh cr)
    (request : RequestMeta) :
    matchesHttpRule cr (matcher.compileRuntimeState cr) request
      = matchesHttpRule cr matcher request := by
  have hpath : matchesHttpPath cr (matcher.compileRuntimeState cr) request
      = matchesHttpPath cr matcher request := by
    have hfresh := h.path
    simp only [matchesHttpPath, HttpMatch.compileRuntimeState]
    refine if_congr Iff.rfl rfl ?_
    generalize matcher.pathType = pathType at hfresh ⊢
    split
    · rfl
    · exact hfresh.regexMatches_eq request.path
    · rfl
  rw [matchesHttpRule, matchesHttpRule, hpath]
  rw [HttpMatch.compileRuntimeState, matchesHeaders_compile h.headers,
    matchesParams_compile h.queryParams]

theorem matchesGrpcValue_compile
    (h : Regex.Fresh cr compiled expected (matchType == "RegularExpression" && expected != ""))
    (actual : String) : matchesGrpcValue cr expected actual matchType
        (compileRegex cr expected (matchType == "RegularExpression" && expected != ""))
      = matchesGrpcValue cr expected actual matchType compiled := by
  unfold matchesGrpcValue
  by_cases hnil : expected = ""
  · rw [if_pos hnil, if_pos hnil]
  · rw [if_neg hnil, if_neg hnil]
    rw [bne_iff_ne.mpr hnil, Bool.and_true] at h ⊢
    split
    · exact h.regexMatches_eq actual
    · rfl

theorem matchesGrpcRule_compile {matcher : GrpcMatch} (h : matcher.Fresh cr)
    (request : RequestMeta) (grpc : Option GrpcPath) :
    matchesGrpcRule cr (matcher.compileRuntimeState cr) request grpc
      = matchesGrpcRule cr matcher request grpc := by
  unfold matchesGrpcRule
  rw [GrpcMatch.compileRuntimeState, matchesHeaders_compile h.headers]
  refine if_congr Iff.rfl ?_ rfl
  cases grpc with
  | none => rfl
  | some grpc =>
    simp only [matchesGrpcValue_compile h.service, matchesGrpcValue_compile h.method]

theorem bestHttpRuleMatch_compile {rule : HttpRule}
    (h : ∀ matcher ∈ rule.matches, matcher.Fresh cr) (request : RequestMeta) :
    bestHttpRuleMatch cr (rule.compileMatchers cr) request = bestHttpRuleMatch cr rule request := by
  have hfilter : (rule.matches.filter fun matcher =>
      matchesHttpRule cr (matcher.compileRuntimeState cr) request)
        = rule.matches.filter fun matcher => matchesHttpRule cr matcher request :=
    filter_congr fun matcher hmatcher => matchesHttpRule_compile (h matcher hmatcher) request
  have hscore : ∀ matcher : HttpMatch, httpMatchScore (matcher.compileRuntimeState cr)
      = httpMatchScore matcher := by
    intro matcher
    simp only [httpMatchScore, normalizeHttpPathMatch, HttpMatch.compileRuntimeState, length_map]
    rfl
  simp only [bestHttpRuleMatch, HttpRule.compileMatchers, map_eq_nil_iff, List.filter_map,
    List.map_map, Function.comp_def, hfilter, hscore]
  rfl

theorem bestGrpcRuleMatch_compile {rule : GrpcRule}
    (h : ∀ matcher ∈ rule.matches, matcher.Fresh cr) (request : RequestMeta)
    (grpc : Option GrpcPath) :
    bestGrpcRuleMatch cr (rule.compileMatchers cr) request grpc
      = bestGrpcRuleMatch cr rule request grpc := by
  have hfilter : (rule.matches.filter fun matcher =>
      matchesGrpcRule cr (matcher.compileRuntimeState cr) request grpc)
        = rule.matches.filter fun matcher => matchesGrpcRule cr matcher request grpc :=
    filter_congr fun matcher hmatcher =>
      matchesGrpcRule_compile (h matcher hmatcher) request grpc
  have hscore : ∀ matcher : GrpcMatch, grpcMatchScore (matcher.compileRuntimeState cr)
      = grpcMatchScore matcher := by
    intro matcher
    simp only [grpcMatchScore, GrpcMatch.compileRuntimeState, length_map]
    rfl
  simp only [bestGrpcRuleMatch, GrpcRule.compileMatchers, map_eq_nil_iff, List.filter_map,
    List.map_map, Function.comp_def, hfilter, hscore]

/-! ## The loops -/

/-- The first snapshot is the second with its matchers compiled; the indexes of both may
be used where they are ready. -/
structure Snapshot.Compiled (cr : Crates) (s t : Snapshot) : Prop where
  coherent : s.Coherent cr
  coherent' : t.Coherent cr
  resolves : s.ResolvesAlike t
  listeners : s.listeners = t.listeners
  http : s.httpRoutes = t.httpRoutes.map (HttpRoute.compileMatchers cr)
  grpc : s.grpcRoutes = t.grpcRoutes.map (GrpcRoute.compileMatchers cr)
  fresh : t.FreshMatchers cr

variable {s t : Snapshot} {request : RequestMeta}
  {sessionResolver : SessionPersistence → Option PersistentSessionTarget} {now : Instant}

theorem Snapshot.Compiled.httpContexts_eq (h : s.Compiled cr t) (request : RequestMeta) :
    s.httpRuleContexts request = (t.httpRuleContexts request).map
      (RuleContext.map (HttpRoute.compileMatchers cr) (HttpRule.compileMatchers cr)) := by
  rw [Snapshot.httpContexts_eq h.coherent, Snapshot.httpContexts_eq h.coherent', h.http]
  refine flatMap_routeContexts_map (f := HttpRoute.compileMatchers cr)
    (g := HttpRule.compileMatchers cr) (fun route => ?_) (fun _ => rfl) _
  exact Snapshot.routeGate_congr h.coherent h.coherent' h.listeners _ _ _ route.namespace route.name
    route.hostnames route.parentRefs

theorem Snapshot.Compiled.grpcContexts_eq (h : s.Compiled cr t) (request : RequestMeta) :
    s.grpcRuleContexts request = (t.grpcRuleContexts request).map
      (RuleContext.map (GrpcRoute.compileMatchers cr) (GrpcRule.compileMatchers cr)) := by
  rw [Snapshot.grpcContexts_eq h.coherent, Snapshot.grpcContexts_eq h.coherent', h.grpc]
  refine flatMap_routeContexts_map (f := GrpcRoute.compileMatchers cr)
    (g := GrpcRule.compileMatchers cr) (fun route => ?_) (fun _ => rfl) _
  exact Snapshot.routeGate_congr h.coherent h.coherent' h.listeners _ _ _ route.namespace route.name
    route.hostnames route.parentRefs

variable {context : RuleContext HttpRoute HttpRule}

def HttpCandidate.compile (cr : Crates) (candidate : HttpCandidate) : HttpCandidate :=
  { candidate with
    context := candidate.context.map (HttpRoute.compileMatchers cr) (HttpRule.compileMatchers cr) }

def GrpcCandidate.compile (cr : Crates) (candidate : GrpcCandidate) : GrpcCandidate :=
  { candidate with
    context := candidate.context.map (GrpcRoute.compileMatchers cr) (GrpcRule.compileMatchers cr) }

theorem Snapshot.Compiled.httpRuleCandidate_eq (h : s.Compiled cr t)
    (hcontext : context ∈ t.httpRuleContexts request)
    (st : SelectionState) : httpRuleCandidate cr s request sessionResolver now
        (context.map (HttpRoute.compileMatchers cr) (HttpRule.compileMatchers cr)) st
      = (httpRuleCandidate cr t request sessionResolver now context st).map
          (Option.map (HttpCandidate.compile cr)) id := by
  obtain ⟨hroute, hrule, -⟩ := of_mem_contexts (Snapshot.httpContexts_eq h.coherent' _ ▸ hcontext)
  have hbest := bestHttpRuleMatch_compile
      (h.fresh.http _ hroute _ (fst_mem_of_mem_zipIdx hrule)) request
  rw [httpRuleCandidate, httpRuleCandidate, RuleContext.map, hbest, h.resolves.resolve_congr]
  cases bestHttpRuleMatch cr context.rule request with
  | none => rfl
  | some best =>
    have hresolve : t.resolveHttpBackendRefsWithSession
        (context.rule.compileMatchers cr).backendRefs
        (context.rule.compileMatchers cr).sessionPersistence request sessionResolver now st
          = t.resolveHttpBackendRefsWithSession context.rule.backendRefs
            context.rule.sessionPersistence request sessionResolver now st := rfl
    have hadmissible : admissibleResolution (context.rule.compileMatchers cr)
        = admissibleResolution context.rule := rfl
    simp only [hresolve, hadmissible]
    split <;> rfl

theorem Snapshot.Compiled.grpcRuleCandidate_eq (h : s.Compiled cr t)
    {context : RuleContext GrpcRoute GrpcRule} (hcontext : context ∈ t.grpcRuleContexts request)
    (st : SelectionState) :
    grpcRuleCandidate cr s request sessionResolver now
        (context.map (GrpcRoute.compileMatchers cr) (GrpcRule.compileMatchers cr)) st
      = (grpcRuleCandidate cr t request sessionResolver now context st).map
          (Option.map (GrpcCandidate.compile cr)) id := by
  obtain ⟨hroute, hrule, -⟩ := of_mem_contexts (Snapshot.grpcContexts_eq h.coherent' _ ▸ hcontext)
  have hbest := bestGrpcRuleMatch_compile
      (h.fresh.grpc _ hroute _ (fst_mem_of_mem_zipIdx hrule)) request
    (parseGrpcPath request.path)
  rw [grpcRuleCandidate, grpcRuleCandidate, RuleContext.map, hbest, h.resolves.resolve_congr]
  cases bestGrpcRuleMatch cr context.rule request (parseGrpcPath request.path) with
  | none => rfl
  | some best =>
    simp only [GrpcRule.compileMatchers, Prod.map_apply, Option.map_map]
    rfl

/-- **Compiled routes are selected as the routes are**, up to the security policy, which
the source reads from the index of full names alone. -/
theorem Snapshot.Compiled.selectHttpRoute_eq (h : s.Compiled cr t) (st : SelectionState) :
    ((selectHttpRoute cr s request sessionResolver now st).1.map
        fun selected => { selected with securityPolicy := none })
      = ((selectHttpRoute cr t request sessionResolver now st).1.map
        fun selected => { selected with securityPolicy := none }) ∧
    (selectHttpRoute cr s request sessionResolver now st).2
      = (selectHttpRoute cr t request sessionResolver now st).2 := by
  have hfold := Best.foldl_scanStep_map (httpRuleCandidate cr t request sessionResolver now)
    HttpCandidate.score (l := t.httpRuleContexts request)
    (fun context hcontext st => h.httpRuleCandidate_eq hcontext st)
    (fun _ => rfl : ∀ c, HttpCandidate.score (HttpCandidate.compile cr c) = c.score) (none, st)
  rw [← h.httpContexts_eq, Prod.map_apply, map_none, id_eq] at hfold
  simp only [selectHttpRoute,
    Snapshot.matchedListeners_congr h.coherent h.coherent' h.listeners, hfold]
  split
  · exact ⟨rfl, rfl⟩
  · refine ⟨?_, rfl⟩
    rw [Prod.map_fst, Option.map_map, Option.map_map, Option.map_map]
    rfl

theorem Snapshot.Compiled.selectGrpcBackend_eq (h : s.Compiled cr t) (st : SelectionState) :
    selectGrpcBackend cr s request sessionResolver now st
      = selectGrpcBackend cr t request sessionResolver now st := by
  have hfold := Best.foldl_scanStep_map (grpcRuleCandidate cr t request sessionResolver now)
    GrpcCandidate.score (l := t.grpcRuleContexts request)
    (fun context hcontext st => h.grpcRuleCandidate_eq hcontext st)
    (fun _ => rfl : ∀ c, GrpcCandidate.score (GrpcCandidate.compile cr c) = c.score) (none, st)
  rw [← h.grpcContexts_eq, Prod.map_apply, map_none, id_eq] at hfold
  simp only [selectGrpcBackend, Snapshot.matchedListeners_congr h.coherent h.coherent' h.listeners,
    hfold, Prod.map_fst, Option.map_map]
  rfl

/-! ## With and without indexes -/

namespace Snapshot

theorem freshMatchers_rebuild (cr : Crates) (s : Snapshot) :
    (s.rebuildRuntimeIndexes cr).FreshMatchers cr where
  http := by
    intro route hroute rule hrule matcher hmatcher
    obtain ⟨route, -, rfl⟩ := List.mem_map.mp hroute
    obtain ⟨rule, -, rfl⟩ := List.mem_map.mp hrule
    obtain ⟨matcher, -, rfl⟩ := List.mem_map.mp hmatcher
    refine ⟨.inr rfl, fun item hitem => ?_, fun item hitem => ?_⟩
    · obtain ⟨item, -, rfl⟩ := List.mem_map.mp hitem
      exact .inr rfl
    · obtain ⟨item, -, rfl⟩ := List.mem_map.mp hitem
      exact .inr rfl
  grpc := by
    intro route hroute rule hrule matcher hmatcher
    obtain ⟨route, -, rfl⟩ := List.mem_map.mp hroute
    obtain ⟨rule, -, rfl⟩ := List.mem_map.mp hrule
    obtain ⟨matcher, -, rfl⟩ := List.mem_map.mp hmatcher
    refine ⟨.inr rfl, .inr rfl, fun item hitem => ?_⟩
    obtain ⟨item, -, rfl⟩ := List.mem_map.mp hitem
    exact .inr rfl

theorem compiled_rebuild (hunique : s.UniqueClusters) (hfresh : s.FreshMatchers cr) :
    (s.rebuildRuntimeIndexes cr).Compiled cr s.withoutIndexes where
  coherent := (indexed_rebuild cr s).coherent
  coherent' := coherent_of_not_ready rfl
  resolves := resolvesAlike_rebuild cr hunique
  listeners := rfl
  http := rfl
  grpc := rfl
  fresh := ⟨hfresh.http, hfresh.grpc⟩

theorem compiled_rebuild_self (hunique : s.UniqueClusters) :
    (s.rebuildRuntimeIndexes cr).Compiled cr (s.rebuildRuntimeIndexes cr).withoutIndexes where
  coherent := (indexed_rebuild cr s).coherent
  coherent' := coherent_of_not_ready rfl
  resolves := resolvesAlike_of_coherent (indexed_rebuild cr s).coherent
    (coherent_of_not_ready rfl) rfl rfl rfl hunique
  listeners := rfl
  http := ((map_inj_left.mpr (indexed_rebuild cr s).compiled_http).trans (List.map_id _)).symm
  grpc := ((map_inj_left.mpr (indexed_rebuild cr s).compiled_grpc).trans (List.map_id _)).symm
  fresh := ⟨(freshMatchers_rebuild cr s).http, (freshMatchers_rebuild cr s).grpc⟩

end Snapshot

/-- **The indexes do not change what is selected.**  Where no two clusters share namespace and name,
a rebuilt snapshot selects what it selects with the flag down, with the same tickets. -/
theorem selectRoute_index_transparent (cr : Crates) (s t : Snapshot) (hunique : s.UniqueClusters)
    (ht : t = (s.rebuildRuntimeIndexes cr).withoutIndexes ∨
      s.FreshMatchers cr ∧ t = s.withoutIndexes) (request : RequestMeta)
    (sessionResolver : SessionPersistence → Option PersistentSessionTarget) (now : Instant)
    (st : SelectionState) :
    ((selectHttpRoute cr (s.rebuildRuntimeIndexes cr) request sessionResolver now st).1.map
        (fun selected => { selected with securityPolicy := none })
      = (selectHttpRoute cr t request sessionResolver now st).1.map
        fun selected => { selected with securityPolicy := none }) ∧
    (selectHttpRoute cr (s.rebuildRuntimeIndexes cr) request sessionResolver now st).2
      = (selectHttpRoute cr t request sessionResolver now st).2 ∧
    selectGrpcBackend cr (s.rebuildRuntimeIndexes cr) request sessionResolver now st
      = selectGrpcBackend cr t request sessionResolver now st := by
  have hcompiled : (s.rebuildRuntimeIndexes cr).Compiled cr t := by
    rcases ht with rfl | ⟨hfresh, rfl⟩
    · exact Snapshot.compiled_rebuild_self hunique
    · exact Snapshot.compiled_rebuild hunique hfresh
  obtain ⟨hroute, hstate⟩ := hcompiled.selectHttpRoute_eq st
  exact ⟨hroute, hstate, hcompiled.selectGrpcBackend_eq st⟩

def wildcardSnapshot : Snapshot :=
  { httpRoutes :=
      [{ name := "web"
         «namespace» := "default"
         hostnames := ["*.example.com"]
         rules := [{ backendRefs := [{}] }] }] }

theorem selectRoute_index_transparent_wildcard :
    (selectHttpRoute inertCrates (wildcardSnapshot.rebuildRuntimeIndexes inertCrates)
        { host := some "a.example.com", path := "/" } (fun _ => none) 0 {}).1.map
          (fun selected => selected.routeName) = some "web" ∧
      (selectHttpRoute inertCrates wildcardSnapshot.withoutIndexes
        { host := some "a.example.com", path := "/" } (fun _ => none) 0 {}).1.map
          (fun selected => selected.routeName) = some "web" := by
  have hindexed : (selectHttpRoute inertCrates (wildcardSnapshot.rebuildRuntimeIndexes inertCrates)
      { host := some "a.example.com", path := "/" } (fun _ => none) 0 {}).1.map
        (fun selected => selected.routeName) = some "web" := by
    decide +kernel
  have hfresh : wildcardSnapshot.FreshMatchers inertCrates :=
    ⟨by simp [wildcardSnapshot], by simp [wildcardSnapshot]⟩
  have hsame := (selectRoute_index_transparent inertCrates wildcardSnapshot _ (by decide)
    (.inr ⟨hfresh, rfl⟩) { host := some "a.example.com", path := "/" } (fun _ => none) 0 {}).1
  refine ⟨hindexed, ?_⟩
  have hname := congrArg (Option.map SelectedHttpRoute.routeName) hsame
  rw [Option.map_map, Option.map_map] at hname
  exact hname.symm.trans hindexed

end

end NantianGateway
