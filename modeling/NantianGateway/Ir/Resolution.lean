import NantianGateway.Ir.Availability
import NantianGateway.Ir.Lookups

/-!
# What a list of backend references resolves to

Whether a resolution finds a session target, an agreed hash, an error or a choice by weight does not
depend on the tickets (`fixedResolution`); only the choice by weight reads them, and it draws
exactly one of each kind (`resolveWeighted_spec`).
-/

namespace NantianGateway

open Text BackendSelectionCandidate List Option

/-! ## Tickets -/

namespace SelectionState

def afterBoth (st : SelectionState) : SelectionState := st.nextBackendTicket.2.nextEndpointTicket.2

end SelectionState

theorem spreadTarget_lt {totalWeight : ℕ} (h : 0 < totalWeight) (ticket : UInt64) :
    spreadWeightedTarget ticket totalWeight < totalWeight := by
  rw [spreadWeightedTarget]
  split
  · exact h
  · exact Nat.mod_lt _ h

namespace Snapshot

variable {s : Snapshot} {now : Instant}

/-! ## Candidates -/

variable {candidate : BackendSelectionCandidate} {refs : List BackendRef}

theorem httpCandidate_eq_candidate {backendRef : BackendRef} :
    s.httpBackendCandidate now backendRef = .candidate candidate ↔
      backendRef.weight ≠ 0 ∧ backendRefIsRoutable backendRef.toBackendTarget = true ∧
        ∃ i cluster, s.findBackendClusterIndex backendRef.toBackendTarget = some (i, cluster) ∧
          s.eligibleEndpoints (s.backendNameForIndex i cluster) now cluster ≠ [] ∧
          candidate = ⟨cluster, backendRef, s.backendNameForIndex i cluster⟩ := by
  rw [httpBackendCandidate]
  by_cases hw : backendRef.weight = 0
  · simp [hw]
  · rw [if_neg hw]
    by_cases hr : backendRefIsRoutable backendRef.toBackendTarget = false
    · simp [hr]
    · rw [if_neg hr]
      cases hf : s.findBackendClusterIndex backendRef.toBackendTarget with
      | none => simp
      | some found =>
        obtain ⟨i, cluster⟩ := found
        simp only [eligibleEndpointCount, count_availability, length_eq_zero_iff]
        by_cases he : s.eligibleEndpoints (s.backendNameForIndex i cluster) now cluster = []
        · rw [if_pos he]
          simp only [reduceCtorEq, false_iff]
          rintro ⟨-, -, i', cluster', hfound, hne, -⟩
          obtain ⟨rfl, rfl⟩ := Prod.mk.inj (Option.some.inj hfound)
          exact hne he
        · rw [if_neg he, BackendRefVisit.candidate.injEq]
          constructor
          · rintro rfl
            exact ⟨hw, Bool.not_eq_false _ ▸ hr, i, cluster, rfl, he, rfl⟩
          · rintro ⟨-, -, i', cluster', hfound, -, hc⟩
            obtain ⟨rfl, rfl⟩ := Prod.mk.inj (Option.some.inj hfound)
            exact hc.symm

theorem mem_httpCandidates : candidate ∈ s.httpBackendCandidates refs now ↔
      ∃ backendRef ∈ refs, s.httpBackendCandidate now backendRef = .candidate candidate := by
  rw [httpBackendCandidates, mem_filterMap]
  refine exists_congr fun backendRef => and_congr_right fun _ => ?_
  cases s.httpBackendCandidate now backendRef <;> simp [BackendRefVisit.toOption]

theorem weight_pos_of_mem (h : candidate ∈ s.httpBackendCandidates refs now) :
    0 < candidate.weight := by
  obtain ⟨backendRef, -, hc⟩ := mem_httpCandidates.mp h
  obtain ⟨hw, -, i, cluster, -, -, rfl⟩ := httpCandidate_eq_candidate.mp hc
  exact Nat.pos_of_ne_zero fun h => hw (UInt32.toNat_inj.mp h)

theorem eligible_ne_nil_of_mem (h : candidate ∈ s.httpBackendCandidates refs now) :
    s.eligibleEndpoints candidate.backendName now candidate.cluster ≠ [] := by
  obtain ⟨backendRef, -, hc⟩ := mem_httpCandidates.mp h
  obtain ⟨-, -, i, cluster, -, he, rfl⟩ := httpCandidate_eq_candidate.mp hc
  exact he

/-! ## The visit of the candidates -/

variable (outcome : BackendCandidateVisit) (backendRef : BackendRef)
  (loadBalancing : Option LoadBalancingPolicy)

theorem candidateCount_observeCandidate :
    (outcome.observeCandidate backendRef loadBalancing).candidateCount
      = outcome.candidateCount + 1 := by
  unfold BackendCandidateVisit.observeCandidate
  simp only
  repeat' split
  all_goals rfl

theorem totalWeight_observeCandidate :
    (outcome.observeCandidate backendRef loadBalancing).totalWeight
      = outcome.totalWeight + backendRef.weight.toNat := by
  unfold BackendCandidateVisit.observeCandidate
  simp only
  repeat' split
  all_goals rfl

theorem foldl_visitStep (refs : List BackendRef) (outcome : BackendCandidateVisit) :
    (refs.foldl (s.visitStep now) outcome).candidateCount
        = outcome.candidateCount + (s.httpBackendCandidates refs now).length ∧
      (refs.foldl (s.visitStep now) outcome).totalWeight = outcome.totalWeight
          + Weighted.total weight (s.httpBackendCandidates refs now) := by
  induction refs generalizing outcome with
  | nil => exact ⟨rfl, rfl⟩
  | cons backendRef refs ih =>
    have hcons : s.httpBackendCandidates (backendRef :: refs) now
        = (s.httpBackendCandidate now backendRef).toOption.toList
          ++ s.httpBackendCandidates refs now := by
      rw [httpBackendCandidates, filterMap_cons]
      cases (s.httpBackendCandidate now backendRef).toOption <;> rfl
    rw [foldl_cons, (ih _).1, (ih _).2, hcons, visitStep]
    cases hc : s.httpBackendCandidate now backendRef with
    | candidate candidate =>
      obtain ⟨-, -, i, cluster, -, -, rfl⟩ := httpCandidate_eq_candidate.mp hc
      simp only [candidateCount_observeCandidate, totalWeight_observeCandidate,
        BackendRefVisit.toOption, toList_some, singleton_append, length_cons,
        Weighted.total_cons, weight]
      omega
    | _ => exact ⟨rfl, rfl⟩

theorem candidateCount_visit (refs : List BackendRef) :
    (s.visitHttpBackendCandidates refs now).candidateCount
      = (s.httpBackendCandidates refs now).length :=
  ((foldl_visitStep refs {}).1).trans (Nat.zero_add _)

theorem totalWeight_visit (refs : List BackendRef) :
    (s.visitHttpBackendCandidates refs now).totalWeight
      = Weighted.total weight (s.httpBackendCandidates refs now) :=
  ((foldl_visitStep refs {}).2).trans (Nat.zero_add _)

variable {policy : LoadBalancingPolicy}

theorem balancing_observeCandidate {outcome : BackendCandidateVisit}
    {backendRef : BackendRef} {loadBalancing : Option LoadBalancingPolicy}
    (h : (outcome.observeCandidate backendRef loadBalancing).effectiveLoadBalancing = some policy) :
    outcome.effectiveLoadBalancing = some policy ∨ loadBalancing = some policy := by
  unfold BackendCandidateVisit.observeCandidate at h
  simp only at h
  split at h
  · exact Or.inl h
  · split at h
    · cases h
    · split at h
      · split at h
        · cases h
        · exact Or.inl h
      · exact Or.inr h

theorem exists_of_balancing
    (h : (s.visitHttpBackendCandidates refs now).effectiveLoadBalancing = some policy) :
    ∃ candidate ∈ s.httpBackendCandidates refs now,
      s.backendLoadBalancing candidate.backendName = some policy := by
  rw [visitHttpBackendCandidates] at h
  induction refs using List.reverseRecOn with
  | nil => cases h
  | append_singleton refs backendRef ih =>
    have hold : (s.visitHttpBackendCandidates refs now).effectiveLoadBalancing = some policy →
        ∃ candidate ∈ s.httpBackendCandidates (refs ++ [backendRef]) now,
          s.backendLoadBalancing candidate.backendName = some policy := by
      intro hrefs
      obtain ⟨candidate, hmem, hpolicy⟩ := ih hrefs
      obtain ⟨found, hfound, hcandidate⟩ := mem_httpCandidates.mp hmem
      exact ⟨candidate, mem_httpCandidates.mpr ⟨found, mem_append_left _ hfound,
        hcandidate⟩, hpolicy⟩
    rw [foldl_append, foldl_cons, foldl_nil, visitStep] at h
    cases hc : s.httpBackendCandidate now backendRef with
    | candidate candidate =>
      rw [hc] at h
      rcases balancing_observeCandidate h with h | h
      · exact hold h
      · exact ⟨candidate, mem_httpCandidates.mpr
          ⟨backendRef, mem_append_right _ (mem_singleton_self _), hc⟩, h⟩
    | _ => rw [hc] at h; exact hold h

/-! ## The choice by weight -/

/-- The candidate a backend ticket points at. -/
def drawnCandidate (s : Snapshot) (refs : List BackendRef) (now : Instant) (ticket : UInt64) :
    Option BackendSelectionCandidate :=
  Weighted.pickWeighted weight (spreadWeightedTarget ticket
      (Weighted.total weight (s.httpBackendCandidates refs now))) 0
    (s.httpBackendCandidates refs now)

theorem total_pos_of_ne_nil (h : s.httpBackendCandidates refs now ≠ []) :
    0 < Weighted.total weight (s.httpBackendCandidates refs now) := by
  obtain ⟨candidate, hc⟩ := exists_mem_of_ne_nil _ h
  exact (weight_pos_of_mem hc).trans_le (Weighted.weight_le_total hc)

theorem exists_drawnCandidate (h : s.httpBackendCandidates refs now ≠ []) (ticket : UInt64) :
    ∃ candidate ∈ s.httpBackendCandidates refs now,
      s.drawnCandidate refs now ticket = some candidate := by
  obtain ⟨candidate, hc⟩ := Weighted.exists_pickWeighted
    (spreadTarget_lt (total_pos_of_ne_nil h) ticket)
  exact ⟨candidate, Weighted.mem_of_pickWeighted hc, hc⟩

/-- The endpoint of a cluster that an endpoint ticket points at. -/
def drawnEndpoint (s : Snapshot) (candidate : BackendSelectionCandidate) (now : Instant)
    (ticket : UInt64) : Option BackendEndpoint :=
  (s.eligibleEndpoints candidate.backendName now candidate.cluster)[ticket.toNat
    % (s.eligibleEndpoints candidate.backendName now candidate.cluster).length]?

theorem exists_drawnEndpoint
    (h : s.eligibleEndpoints candidate.backendName now candidate.cluster ≠ []) (ticket : UInt64) :
    ∃ endpoint ∈ s.eligibleEndpoints candidate.backendName now candidate.cluster,
      s.drawnEndpoint candidate now ticket = some endpoint := by
  have hlt := Nat.mod_lt ticket.toNat (length_pos_of_ne_nil h)
  exact ⟨_, getElem_mem hlt, List.getElem?_eq_getElem hlt⟩

/-- **A choice by weight takes one ticket of each kind**: the first points at a
candidate, the second at one of its endpoints. -/
theorem resolveWeighted_spec (h : s.httpBackendCandidates refs now ≠ [])
    (routeSession : Option SessionPersistence) (st : SelectionState) :
    ∃ candidate ∈ s.httpBackendCandidates refs now,
      s.drawnCandidate refs now st.backendCursor = some candidate ∧
      ∃ endpoint ∈ s.eligibleEndpoints candidate.backendName now candidate.cluster,
        s.drawnEndpoint candidate now st.endpointCursor = some endpoint ∧
        s.resolveWeighted refs routeSession now st
          = ({ selected := some (s.resolved routeSession candidate endpoint) }, st.afterBoth) := by
  obtain ⟨candidate, hmem, hdrawn⟩ := exists_drawnCandidate h st.backendCursor
  have hne := eligible_ne_nil_of_mem hmem
  obtain ⟨endpoint, hendpoint, hpoint⟩ := exists_drawnEndpoint hne st.endpointCursor
  refine ⟨candidate, hmem, hdrawn, endpoint, hendpoint, hpoint, ?_⟩
  rw [drawnCandidate] at hdrawn
  rw [drawnEndpoint] at hpoint
  rw [resolveWeighted, totalWeight_visit]
  simp only [SelectionState.nextBackendTicket, hdrawn]
  rw [selectClusterEndpoint_eq, if_neg hne]
  simp only [SelectionState.nextEndpointTicket, hpoint, map_some]
  rfl

/-! ## The resolution as a whole -/

/-- The resolution that needs no ticket: a session target, an error, or an agreed hash. -/
def fixedResolution (s : Snapshot) (refs : List BackendRef)
    (routeSession : Option SessionPersistence) (request : RequestMeta)
    (sessionResolver : SessionPersistence → Option PersistentSessionTarget) (now : Instant) :
    Option HttpBackendResolution :=
  match (routeSession.bind sessionResolver).bind fun target =>
    s.resolvePersistentHttpBackend now target none refs with
  | some selected => some { selected := some selected }
  | none =>
    match (if routeSession.isNone then
        s.resolveBackendPolicyPersistentHttpBackend now refs sessionResolver else none) with
    | some selected => some { selected := some selected }
    | none =>
      if s.httpBackendCandidates refs now = [] then
        some { error := (s.visitHttpBackendCandidates refs now).error }
      else
        (s.resolveConsistentHashHttpBackend refs now
          (s.visitHttpBackendCandidates refs now).effectiveLoadBalancing routeSession
          request).map fun selected => { selected := some selected }

section

variable (s now) (refs : List BackendRef) (routeSession : Option SessionPersistence)
  (request : RequestMeta) (sessionResolver : SessionPersistence → Option PersistentSessionTarget)

theorem resolve_eq (st : SelectionState) :
    s.resolveHttpBackendRefsWithSession refs routeSession request sessionResolver now st
      = match s.fixedResolution refs routeSession request sessionResolver now with
        | some resolution => (resolution, st)
        | none => s.resolveWeighted refs routeSession now st := by
  rw [resolveHttpBackendRefsWithSession, fixedResolution]
  cases (routeSession.bind sessionResolver).bind fun target =>
    s.resolvePersistentHttpBackend now target none refs with
  | some selected => rfl
  | none =>
    cases (if routeSession.isNone then
      s.resolveBackendPolicyPersistentHttpBackend now refs sessionResolver else none) with
    | some selected => rfl
    | none =>
      simp only [candidateCount_visit, length_eq_zero_iff]
      by_cases hnil : s.httpBackendCandidates refs now = []
      · simp only [if_pos hnil]
      · simp only [if_neg hnil]
        cases s.resolveConsistentHashHttpBackend refs now
          (s.visitHttpBackendCandidates refs now).effectiveLoadBalancing routeSession
            request <;> rfl

theorem candidates_ne_nil
    (h : s.fixedResolution refs routeSession request sessionResolver now = none) :
    s.httpBackendCandidates refs now ≠ [] := by
  intro hnil
  rw [fixedResolution] at h
  split at h
  · exact some_ne_none _ h
  · split at h
    · exact some_ne_none _ h
    · rw [if_pos hnil] at h
      exact some_ne_none _ h

theorem selected_ne_none (hne : s.httpBackendCandidates refs now ≠ []) (st : SelectionState) :
    (s.resolveHttpBackendRefsWithSession refs routeSession request sessionResolver now
      st).1.selected ≠ none := by
  rw [resolve_eq]
  cases hfixed : s.fixedResolution refs routeSession request sessionResolver now with
  | none =>
    obtain ⟨_, -, -, _, -, -, hspec⟩ := resolveWeighted_spec hne routeSession st
    simp only [hspec]
    exact some_ne_none _
  | some resolution =>
    rw [fixedResolution] at hfixed
    split at hfixed
    · rw [← Option.some.inj hfixed]
      exact some_ne_none _
    · split at hfixed
      · rw [← Option.some.inj hfixed]
        exact some_ne_none _
      · rw [if_neg hne] at hfixed
        obtain ⟨selected, -, rfl⟩ := map_eq_some_iff.mp hfixed
        exact some_ne_none _

/-- A rule resolves to a backend, to an error, or has a filter that needs no backend. -/
def ruleAdmissible (rule : HttpRule) : Bool :=
  match s.fixedResolution rule.backendRefs rule.sessionPersistence request sessionResolver now with
  | some resolution => admissibleResolution rule resolution
  | none => true

theorem admissibleResolution_resolve (rule : HttpRule) (st : SelectionState) :
    admissibleResolution rule (s.resolveHttpBackendRefsWithSession rule.backendRefs
      rule.sessionPersistence request sessionResolver now st).1
      = s.ruleAdmissible now request sessionResolver rule := by
  rw [resolve_eq, ruleAdmissible]
  cases hfixed : s.fixedResolution rule.backendRefs rule.sessionPersistence request sessionResolver
    now with
  | some resolution => rfl
  | none =>
    obtain ⟨candidate, -, -, endpoint, -, -, hspec⟩ := resolveWeighted_spec
      (candidates_ne_nil s now _ _ _ _ hfixed) rule.sessionPersistence st
    simp only [hspec]
    rfl

end

end Snapshot
end NantianGateway
