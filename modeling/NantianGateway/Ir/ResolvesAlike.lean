import NantianGateway.Ir.Resolution

/-!
# What a resolution depends on

Resolving references reads the endpoint health, the backend policies and the clusters of services,
and nothing else of a snapshot.  So two snapshots that answer these alike (`ResolvesAlike`) resolve
alike, with the same tickets.  The case that matters is a snapshot and its rebuilt version.
-/

namespace NantianGateway

open Text Option

namespace Snapshot

/-- Two snapshots have the same health and policies and find the same clusters under the
same names. -/
structure ResolvesAlike (s t : Snapshot) : Prop where
  runtime : s.endpointRuntime = t.endpointRuntime
  policies : s.backendPolicies = t.backendPolicies
  found : ∀ «namespace» name port, s.backendClusterForServiceIndex «namespace» name port
    = t.backendClusterForServiceIndex «namespace» name port
  named : ∀ «namespace» name port i cluster,
    t.backendClusterForServiceIndex «namespace» name port = some (i, cluster) →
      s.backendNameForIndex i cluster = t.backendNameForIndex i cluster

/-- The same of two snapshots that are each asked at a time of their own. -/
structure AlikeAt (s t : Snapshot) (now now' : Instant) : Prop where
  health : ∀ backendName endpoint, s.endpointAvailabilityAt backendName endpoint now
    = t.endpointAvailabilityAt backendName endpoint now'
  policies : s.backendPolicies = t.backendPolicies
  found : ∀ «namespace» name port, s.backendClusterForServiceIndex «namespace» name port
    = t.backendClusterForServiceIndex «namespace» name port
  named : ∀ «namespace» name port i cluster,
    t.backendClusterForServiceIndex «namespace» name port = some (i, cluster) →
      s.backendNameForIndex i cluster = t.backendNameForIndex i cluster

namespace AlikeAt

variable {s t : Snapshot} {now now' : Instant}

theorem of_health (health : ∀ backendName endpoint,
    s.endpointAvailabilityAt backendName endpoint now
    = s.endpointAvailabilityAt backendName endpoint now') : s.AlikeAt s now now' :=
  ⟨health, rfl, fun _ _ _ => rfl, fun _ _ _ _ _ _ => rfl⟩

variable (h : s.AlikeAt t now now')

include h

/-! ## Endpoints and clusters -/

variable (cluster : BackendCluster) (backendName : String)

theorem availability_congr : s.endpointSelectionAvailability cluster backendName now
      = t.endpointSelectionAvailability cluster backendName now' := by
  have hcount : s.countEndpoint backendName now = t.countEndpoint backendName now' := by
    funext counts endpoint
    rw [countEndpoint, countEndpoint, h.health]
  rw [endpointSelectionAvailability, endpointSelectionAvailability, hcount]

theorem endpointMatches_congr
    (endpoint : BackendEndpoint) (availability : EndpointSelectionAvailability) :
    s.endpointMatchesSelectionAvailability backendName endpoint now availability
      = t.endpointMatchesSelectionAvailability backendName endpoint now' availability := by
  rw [endpointMatchesSelectionAvailability, endpointMatchesSelectionAvailability, h.health]

theorem selectEndpoint_congr : s.selectClusterEndpoint cluster backendName now
      = t.selectClusterEndpoint cluster backendName now' := by
  funext st
  simp only [selectClusterEndpoint, h.availability_congr, h.endpointMatches_congr]

theorem backendSessionPersistence_congr :
    s.backendSessionPersistence = t.backendSessionPersistence := by
  funext backendName
  simp only [backendSessionPersistence, backendPolicy, h.policies]

theorem findCluster_congr : s.findBackendClusterIndex = t.findBackendClusterIndex := by
  funext backendRef
  simp only [findBackendClusterIndex, h.found]

theorem nameForIndex_congr {backendRef : BackendTarget} {i : ℕ}
    {cluster : BackendCluster} (hfound : t.findBackendClusterIndex backendRef = some (i, cluster)) :
    s.backendNameForIndex i cluster = t.backendNameForIndex i cluster := by
  rw [findBackendClusterIndex] at hfound
  split at hfound
  · exact h.named _ _ _ _ _ hfound
  · cases hfound

/-! ## Candidates -/

theorem httpCandidate_congr : s.httpBackendCandidate now = t.httpBackendCandidate now' := by
  funext backendRef
  rw [httpBackendCandidate, httpBackendCandidate, h.findCluster_congr]
  refine if_congr Iff.rfl rfl (if_congr Iff.rfl rfl ?_)
  cases hfound : t.findBackendClusterIndex backendRef.toBackendTarget with
  | none => rfl
  | some found =>
    obtain ⟨i, cluster⟩ := found
    simp only
    rw [h.nameForIndex_congr hfound, eligibleEndpointCount, eligibleEndpointCount,
      h.availability_congr]

variable (refs : List BackendRef)

theorem httpCandidates_congr :
    s.httpBackendCandidates refs now = t.httpBackendCandidates refs now' := by
  rw [httpBackendCandidates, httpBackendCandidates, h.httpCandidate_congr]

theorem visitHttpBackendCandidates_congr :
    s.visitHttpBackendCandidates refs now = t.visitHttpBackendCandidates refs now' := by
  have hstep : s.visitStep now = t.visitStep now' := by
    funext outcome backendRef
    simp only [visitStep, h.httpCandidate_congr, backendLoadBalancing, backendPolicy, h.policies]
  rw [visitHttpBackendCandidates, visitHttpBackendCandidates, hstep]

theorem persistent_congr :
    s.resolvePersistentHttpBackend now = t.resolvePersistentHttpBackend now' := by
  funext target sessionPersistence refs
  induction refs with
  | nil => rfl
  | cons backendRef refs ih =>
    rw [resolvePersistentHttpBackend, resolvePersistentHttpBackend, ih, h.findCluster_congr]
    refine if_congr Iff.rfl rfl ?_
    cases hfound : t.findBackendClusterIndex backendRef.toBackendTarget with
    | none => rfl
    | some found =>
      obtain ⟨i, cluster⟩ := found
      simp only [h.nameForIndex_congr hfound, h.availability_congr, h.endpointMatches_congr]

theorem resolved_congr : s.resolved = t.resolved := by
  funext routeSession candidate endpoint
  simp only [resolved, h.backendSessionPersistence_congr]

/-! ## Resolutions -/

section

variable {resolver resolver' : SessionPersistence → Option PersistentSessionTarget}
  {refs : List BackendRef} {routeSession : Option SessionPersistence}
  {request request' : RequestMeta}

theorem policyPersistent_congr
    (hpolicies : ∀ backendName, (t.backendSessionPersistence backendName).bind resolver
      = (t.backendSessionPersistence backendName).bind resolver') :
    s.resolveBackendPolicyPersistentHttpBackend now refs resolver
      = t.resolveBackendPolicyPersistentHttpBackend now' refs resolver' := by
  rw [resolveBackendPolicyPersistentHttpBackend, resolveBackendPolicyPersistentHttpBackend,
    h.backendSessionPersistence_congr, h.persistent_congr, h.findCluster_congr]
  refine congrArg (refs.findSome? ·) (funext fun backendRef => if_congr Iff.rfl rfl ?_)
  refine Option.bind_congr fun found hfound => ?_
  rw [h.nameForIndex_congr hfound]
  have hpolicy := hpolicies (t.backendNameForIndex found.1 found.2)
  cases hsession : t.backendSessionPersistence (t.backendNameForIndex found.1 found.2) with
  | none => rfl
  | some policy =>
    rw [hsession, bind_some, bind_some] at hpolicy
    rw [bind_some, bind_some, hpolicy]

theorem consistentHash_congr
    (hkeys : ∀ backendName policy, t.backendLoadBalancing backendName = some policy →
      policy.policyType = "ConsistentHash" →
        consistentHashKey policy request = consistentHashKey policy request') :
    s.resolveConsistentHashHttpBackend refs now
        (t.visitHttpBackendCandidates refs now').effectiveLoadBalancing routeSession request
      = t.resolveConsistentHashHttpBackend refs now'
        (t.visitHttpBackendCandidates refs now').effectiveLoadBalancing routeSession request' := by
  have hendpoint : ∀ cluster backendName hashKey,
      s.selectClusterEndpointByHash cluster backendName hashKey now
        = t.selectClusterEndpointByHash cluster backendName hashKey now' := by
    intro cluster backendName hashKey
    simp only [selectClusterEndpointByHash, h.availability_congr, h.endpointMatches_congr]
  simp only [resolveConsistentHashHttpBackend, h.httpCandidates_congr, hendpoint, h.resolved_congr]
  refine Option.bind_congr fun policy hpolicy => ?_
  obtain ⟨candidate, -, hbalancing⟩ := exists_of_balancing hpolicy
  by_cases htype : policy.policyType = "ConsistentHash"
  · rw [hkeys candidate.backendName policy hbalancing htype]
  · rw [if_pos htype, if_pos htype]

theorem resolve_congr (hsession : routeSession.bind resolver = routeSession.bind resolver')
    (hpolicies : ∀ backendName, (t.backendSessionPersistence backendName).bind resolver
      = (t.backendSessionPersistence backendName).bind resolver')
    (hkeys : ∀ backendName policy, t.backendLoadBalancing backendName = some policy →
      policy.policyType = "ConsistentHash" →
        consistentHashKey policy request = consistentHashKey policy request') :
    s.resolveHttpBackendRefsWithSession refs routeSession request resolver now
      = t.resolveHttpBackendRefsWithSession refs routeSession request' resolver' now' := by
  funext st
  simp only [resolveHttpBackendRefsWithSession, resolveWeighted, hsession, h.persistent_congr,
    h.policyPersistent_congr hpolicies, h.visitHttpBackendCandidates_congr,
    h.consistentHash_congr hkeys, h.httpCandidates_congr, h.selectEndpoint_congr, h.resolved_congr]

end

end AlikeAt

namespace ResolvesAlike

variable {s t : Snapshot}

theorem alikeAt (h : s.ResolvesAlike t) (now : Instant) : s.AlikeAt t now now where
  health := fun backendName endpoint => by
    rw [endpointAvailabilityAt, endpointAvailabilityAt, h.runtime]
  policies := h.policies
  found := h.found
  named := h.named

theorem selectServiceBackend_congr (h : s.ResolvesAlike t) :
    s.selectServiceBackend = t.selectServiceBackend := by
  funext «namespace» name port now st
  simp only [selectServiceBackend, backendClusterForService, h.found,
    (h.alikeAt now).selectEndpoint_congr]

theorem resolve_congr (h : s.ResolvesAlike t) :
    s.resolveHttpBackendRefsWithSession = t.resolveHttpBackendRefsWithSession := by
  funext refs routeSession request sessionResolver now
  exact (h.alikeAt now).resolve_congr rfl (fun _ => rfl) fun _ _ _ _ => rfl

end ResolvesAlike

/-! ## A snapshot and its indexes -/

/-- The snapshot with the flag down: every lookup scans. -/
def withoutIndexes (s : Snapshot) : Snapshot := { s with runtimeIndexesReady := false }

/-- No two clusters share namespace and name. -/
def UniqueClusters (s : Snapshot) : Prop :=
  (s.backends.map fun cluster => (cluster.namespace, cluster.name)).Nodup

instance (s : Snapshot) : Decidable s.UniqueClusters :=
  inferInstanceAs (Decidable (List.Nodup _))

variable {cr : Crates} {s t : Snapshot}

theorem UniqueClusters.index_eq (h : s.UniqueClusters) {i j : ℕ} {cluster cluster' : BackendCluster}
    (hi : s.backends[i]? = some cluster) (hj : s.backends[j]? = some cluster')
    (hnamespace : cluster.namespace = cluster'.namespace) (hname : cluster.name = cluster'.name) :
    i = j := by
  have hlen : i < (s.backends.map fun cluster => (cluster.namespace, cluster.name)).length := by
    rw [List.length_map]
    exact (List.getElem?_eq_some_iff.mp hi).1
  refine (List.getElem?_inj hlen h).mp ?_
  rw [List.getElem?_map, List.getElem?_map, hi, hj, map_some, map_some, hnamespace, hname]

theorem clusterForService_eq_some (h : s.Coherent cr) (hunique : s.UniqueClusters)
    {«namespace» name : String} {port : UInt32} {i : ℕ} {cluster : BackendCluster} :
    s.backendClusterForServiceIndex «namespace» name port = some (i, cluster) ↔
      s.backends[i]? = some cluster ∧
        backendClusterMatchesRef cluster «namespace» name port = true := by
  refine ⟨clusterForService_some h, fun ⟨hi, hmatch⟩ => ?_⟩
  cases hfound : s.backendClusterForServiceIndex «namespace» name port with
  | none =>
    have hnone := (clusterForService_eq_none h).mp hfound cluster (List.mem_of_getElem? hi)
    exact (Bool.false_ne_true (hnone.symm.trans hmatch)).elim
  | some found =>
    obtain ⟨j, cluster'⟩ := found
    obtain ⟨hj, hmatch'⟩ := clusterForService_some h hfound
    obtain ⟨hnamespace, hname⟩ := clusterMatchesRef_iff.mp hmatch
    obtain ⟨hnamespace', hname'⟩ := clusterMatchesRef_iff.mp hmatch'
    obtain rfl := hunique.index_eq hi hj (hnamespace.trans hnamespace'.symm)
        (hname.trans hname'.symm)
    rw [Option.some.inj (hi.symm.trans hj)]

theorem resolvesAlike_of_coherent (hs : s.Coherent cr) (ht : t.Coherent cr)
    (hruntime : s.endpointRuntime = t.endpointRuntime)
    (hpolicies : s.backendPolicies = t.backendPolicies) (hback : s.backends = t.backends)
    (hunique : t.UniqueClusters) : s.ResolvesAlike t where
  runtime := hruntime
  policies := hpolicies
  found := by
    have hunique' : s.UniqueClusters := by rwa [UniqueClusters, hback]
    intro «namespace» name port
    refine Option.ext fun ⟨i, cluster⟩ => ?_
    rw [clusterForService_eq_some hs hunique', clusterForService_eq_some ht hunique, hback]
  named := by
    intro «namespace» name port i cluster hfound
    obtain ⟨hi, -⟩ := clusterForService_some ht hfound
    rw [nameForIndex_eq hs (hback ▸ hi), nameForIndex_eq ht hi]

theorem resolvesAlike_rebuild (cr : Crates) (hunique : s.UniqueClusters) :
    (s.rebuildRuntimeIndexes cr).ResolvesAlike s.withoutIndexes :=
  resolvesAlike_of_coherent (indexed_rebuild cr s).coherent
    (coherent_of_not_ready rfl) rfl rfl rfl hunique

end Snapshot
end NantianGateway
