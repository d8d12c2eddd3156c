import NantianGateway.Ir.BackendResolution

/-!
# Which endpoints a cluster offers

`eligibleEndpoints` are the endpoints that are healthy, not actively unhealthy and not ejected, or,
if there is none of these, the healthy ones that are not actively unhealthy.  Every selection
routine counts them and indexes into the list of them.
-/

namespace NantianGateway.Snapshot

open List

variable (s : Snapshot) (backendName : String) (now : Instant) (endpoint : BackendEndpoint)

/-- Active probing found the endpoint unhealthy. -/
def activelyUnhealthy : Bool :=
  (s.endpointRuntime.getCloned (.new backendName endpoint)).any fun state => state.activeUnhealthy

/-- Passive observation has ejected the endpoint for the time being. -/
def ejected : Bool :=
  (s.endpointRuntime.getCloned (.new backendName endpoint)).any fun state => state.isEjectedAt now

/-- Healthy by the configuration and by the probes. -/
def servable : Bool :=
  endpoint.healthy && !s.activelyUnhealthy backendName endpoint

/-- Servable and not ejected. -/
def primary : Bool :=
  s.servable backendName endpoint && !s.ejected backendName now endpoint

variable (cluster : BackendCluster)

/-- The endpoints a cluster offers: the primary ones, or as a last resort the servable
ones. -/
def eligibleEndpoints : List BackendEndpoint :=
  if cluster.endpoints.any (s.primary backendName now) then
    cluster.endpoints.filter (s.primary backendName now)
  else cluster.endpoints.filter (s.servable backendName)

variable {s backendName now}

theorem endpointAvailabilityAt_eq : s.endpointAvailabilityAt backendName endpoint now
      = if s.servable backendName endpoint = false then .unavailable
        else if s.ejected backendName now endpoint = true then .passiveLastResort
        else .primary := by
  rw [endpointAvailabilityAt]
  cases hh : endpoint.healthy with
  | false => simp [servable, hh]
  | true =>
    cases ht : s.endpointRuntime.hasTrackedStates with
    | false =>
      have hnone := EndpointRuntimeStore.getCloned_of_not_hasTrackedStates ht
        (.new backendName endpoint)
      simp [servable, hh, activelyUnhealthy, ejected, hnone]
    | true =>
      cases hs : s.endpointRuntime.getCloned (.new backendName endpoint) with
      | none => simp [servable, hh, activelyUnhealthy, ejected, hs]
      | some state =>
        cases ha : state.activeUnhealthy with
        | true => simp [servable, hh, activelyUnhealthy, hs, ha]
        | false => simp [servable, hh, activelyUnhealthy, ejected, hs, ha]

theorem endpointMatches_eq (availability : EndpointSelectionAvailability) :
    s.endpointMatchesSelectionAvailability backendName endpoint now availability
      = if availability.includePassiveEjected then s.servable backendName endpoint
        else s.primary backendName now endpoint := by
  rw [endpointMatchesSelectionAvailability, endpointAvailabilityAt_eq, primary]
  cases s.servable backendName endpoint with
  | false => simp
  | true =>
    cases s.ejected backendName now endpoint with
    | false => simp
    | true => cases availability.includePassiveEjected <;> rfl

theorem countEndpoint_eq (counts : ℕ × ℕ) (endpoint : BackendEndpoint) :
    s.countEndpoint backendName now counts endpoint
      = (counts.1 + (if s.primary backendName now endpoint then 1 else 0),
          counts.2 + if s.servable backendName endpoint then 1 else 0) := by
  rw [countEndpoint, endpointAvailabilityAt_eq, primary]
  cases s.servable backendName endpoint with
  | false => simp
  | true => cases s.ejected backendName now endpoint <;> simp

theorem foldl_countEndpoint (endpoints : List BackendEndpoint) (counts : ℕ × ℕ) :
    endpoints.foldl (s.countEndpoint backendName now) counts
      = (counts.1 + endpoints.countP (s.primary backendName now),
          counts.2 + endpoints.countP (s.servable backendName)) := by
  induction endpoints generalizing counts with
  | nil => rfl
  | cons endpoint endpoints ih =>
    rw [foldl_cons, ih, countEndpoint_eq, countP_cons, countP_cons]
    refine Prod.ext ?_ ?_
    · show _ + _ + _ = _ + (_ + _)
      omega
    · show _ + _ + _ = _ + (_ + _)
      omega

theorem availability_eq : s.endpointSelectionAvailability cluster backendName now
      = if cluster.endpoints.any (s.primary backendName now) then
          ⟨cluster.endpoints.countP (s.primary backendName now), false⟩
        else ⟨cluster.endpoints.countP (s.servable backendName), true⟩ := by
  have hpos : 0 < cluster.endpoints.countP (s.primary backendName now) ↔
      cluster.endpoints.any (s.primary backendName now) = true := by
    rw [countP_pos_iff, any_eq_true]
  rw [endpointSelectionAvailability, foldl_countEndpoint]
  simp only [Nat.zero_add]
  exact if_congr hpos rfl rfl

theorem filter_endpointMatches : (cluster.endpoints.filter fun endpoint =>
      s.endpointMatchesSelectionAvailability backendName endpoint now
        (s.endpointSelectionAvailability cluster backendName now))
      = s.eligibleEndpoints backendName now cluster := by
  rw [availability_eq, eligibleEndpoints]
  split
  · exact filter_congr fun endpoint _ => endpointMatches_eq endpoint _
  · exact filter_congr fun endpoint _ => endpointMatches_eq endpoint _

theorem count_availability : (s.endpointSelectionAvailability cluster backendName now).count
      = (s.eligibleEndpoints backendName now cluster).length := by
  rw [availability_eq, eligibleEndpoints]
  split
  · rw [countP_eq_length_filter]
  · rw [countP_eq_length_filter]

theorem mem_eligible {cluster : BackendCluster} {endpoint : BackendEndpoint} :
    endpoint ∈ s.eligibleEndpoints backendName now cluster ↔
      endpoint ∈ cluster.endpoints ∧ s.servable backendName endpoint = true ∧
        (s.ejected backendName now endpoint = true →
          ∀ other ∈ cluster.endpoints, s.primary backendName now other = false) := by
  rw [eligibleEndpoints]
  by_cases hany : cluster.endpoints.any (s.primary backendName now) = true
  · rw [if_pos hany, mem_filter, primary, Bool.and_eq_true, Bool.not_eq_true']
    obtain ⟨best, hbest, hprimary⟩ := any_eq_true.mp hany
    refine and_congr_right fun _ => and_congr_right fun _ => ⟨fun h h' => ?_, fun h => ?_⟩
    · rw [h] at h'
      cases h'
    · rw [← Bool.not_eq_true]
      intro hejected
      rw [h hejected best hbest] at hprimary
      exact Bool.false_ne_true hprimary
  · have hnone : ∀ other ∈ cluster.endpoints, s.primary backendName now other = false :=
      fun other hother => Bool.eq_false_iff.mpr (any_eq_false.mp (Bool.eq_false_iff.mpr hany)
        other hother)
    rw [if_neg hany, mem_filter]
    exact ⟨fun h => ⟨h.1, h.2, fun _ => hnone⟩, fun h => ⟨h.1, h.2.1⟩⟩

theorem eligible_eq_nil {cluster : BackendCluster} :
    s.eligibleEndpoints backendName now cluster = [] ↔
      ∀ endpoint ∈ cluster.endpoints, s.servable backendName endpoint = false := by
  rw [eligibleEndpoints]
  by_cases hany : cluster.endpoints.any (s.primary backendName now) = true
  · obtain ⟨best, hbest, hprimary⟩ := any_eq_true.mp hany
    rw [if_pos hany]
    constructor
    · intro hnil
      have hmem : best ∈ cluster.endpoints.filter (s.primary backendName now) :=
        mem_filter.mpr ⟨hbest, hprimary⟩
      rw [hnil] at hmem
      exact (not_mem_nil hmem).elim
    · intro hall
      rw [primary, hall best hbest] at hprimary
      cases hprimary
  · rw [if_neg hany, filter_eq_nil_iff]
    simp

theorem selectClusterEndpoint_eq (cluster : BackendCluster) (st : SelectionState) :
    s.selectClusterEndpoint cluster backendName now st
      = if s.eligibleEndpoints backendName now cluster = [] then (none, st)
        else
          ((s.eligibleEndpoints backendName now cluster)[st.nextEndpointTicket.1.toNat
            % (s.eligibleEndpoints backendName now cluster).length]?, st.nextEndpointTicket.2) := by
  rw [selectClusterEndpoint]
  simp only [filter_endpointMatches, count_availability, length_eq_zero_iff]

end NantianGateway.Snapshot
