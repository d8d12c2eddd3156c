import Mathlib.Data.List.Find
import NantianGateway.Ir.Resolution

/-!
# Compiled backend references

The plans resolve a reference by the text `namespace/name:port`, where the slow path compares
namespace, name and port each on its own.  The two agree for a reference that is `Unambiguous`; then
a selection from the compiled candidates is what the slow path draws from the same tickets.
-/

namespace NantianGateway

open Text Weighted List Option

namespace Snapshot

variable {cr : Crates} {s : Snapshot} {now : Instant}

/-! ## Names -/

/-- The cluster an index by text holds for a reference, the last one filed under its text, is of
the namespace of the reference. -/
def Unambiguous (s : Snapshot) (backendRef : BackendTarget) : Prop :=
  ∀ cluster ∈ s.backends.reverse.find? fun cluster =>
      backendClusterName cluster = requestedBackendName backendRef,
    cluster.namespace = backendRef.namespace

instance (backendRef : BackendTarget) : Decidable (s.Unambiguous backendRef) :=
  inferInstanceAs (Decidable (∀ cluster ∈ s.backends.reverse.find? _, _))

variable {backendRef : BackendTarget} {candidate : CompiledCandidate} {refs : List BackendRef}
  {cluster : BackendCluster}

/-- A reference names a cluster if its text is the cluster's and its namespace is. -/
theorem matchesRef_iff_clusterName :
    backendClusterMatchesRef cluster backendRef.namespace backendRef.name backendRef.port = true ↔
      backendClusterName cluster = requestedBackendName backendRef ∧
        cluster.namespace = backendRef.namespace := by
  rw [clusterMatchesRef_iff, and_comm]
  refine and_congr_left fun hnamespace => ?_
  rw [backendClusterName, requestedBackendName, hnamespace]
  simp only [String.append_assoc, ← String.toList_inj, String.toList_append, append_cancel_left_eq]

theorem unambiguous_iff_find? :
    s.Unambiguous backendRef ↔ ∀ entry ∈ s.backends.zipIdx.reverse.find? fun entry =>
        backendClusterName entry.1 = requestedBackendName backendRef,
      entry.1.namespace = backendRef.namespace := by
  have hfirst : s.backends.reverse = s.backends.zipIdx.reverse.map Prod.fst := by
    rw [map_reverse, zipIdx_map_fst]
  rw [Unambiguous, hfirst, List.find?_map]
  exact Option.forall_mem_map

/-- **The two indexes hold the same cluster for an unambiguous reference**, the last one that is
spelled with it. -/
theorem Unambiguous.find?_eq (h : s.Unambiguous backendRef) :
    (s.backends.zipIdx.reverse.find? fun entry =>
      backendClusterMatchesRef entry.1 backendRef.namespace backendRef.name backendRef.port)
      = s.backends.zipIdx.reverse.find? fun entry =>
          backendClusterName entry.1 = requestedBackendName backendRef := by
  rw [unambiguous_iff_find?] at h
  cases htext : s.backends.zipIdx.reverse.find? fun entry =>
      backendClusterName entry.1 = requestedBackendName backendRef with
  | none =>
    refine List.find?_eq_none.mpr fun entry hentry hmatch => ?_
    have hnone := List.find?_eq_none.mp htext entry hentry
    exact hnone (decide_eq_true (matchesRef_iff_clusterName.mp hmatch).1)
  | some entry =>
    -- no entry behind this one is spelled with the reference, so none matches it
    obtain ⟨hname, before, after, hsplit, hbefore⟩ := List.find?_eq_some_iff_append.mp htext
    have hmatch := matchesRef_iff_clusterName.mpr ⟨of_decide_eq_true hname, h entry htext⟩
    refine List.find?_eq_some_iff_append.mpr ⟨hmatch, before, after, hsplit, fun other hprior => ?_⟩
    have hother := hbefore other hprior
    rw [Bool.not_eq_true', decide_eq_false_iff_not] at hother
    rw [Bool.not_eq_true', Bool.eq_false_iff]
    exact fun hmatch => hother (matchesRef_iff_clusterName.mp hmatch).1

/-- If both indexes give the same position, the reference is unambiguous. -/
theorem unambiguous_of_index_eq
    (h : (s.backends.zipIdx.reverse.find? fun entry =>
        backendClusterMatchesRef entry.1 backendRef.namespace backendRef.name backendRef.port).map
          Prod.snd
      = (s.backends.zipIdx.reverse.find? fun entry =>
          backendClusterName entry.1 = requestedBackendName backendRef).map Prod.snd) :
    s.Unambiguous backendRef := by
  refine unambiguous_iff_find?.mpr fun entry hentry => ?_
  rw [Option.mem_def.mp hentry, map_some] at h
  obtain ⟨found, hfound, hindex⟩ := map_eq_some_iff.mp h
  have hsame : found = entry := by
    have hleft := getElem?_of_mem_zipIdx (mem_reverse.mp (mem_of_find?_eq_some hfound))
    have hright := getElem?_of_mem_zipIdx (mem_reverse.mp (mem_of_find?_eq_some hentry))
    rw [hindex, hright] at hleft
    exact Prod.ext (Option.some.inj hleft).symm hindex
  have hmatch := List.find?_some hfound
  rw [hsame] at hmatch
  exact (matchesRef_iff_clusterName.mp hmatch).2

theorem Indexed.findCluster_eq (h : s.Indexed cr) (hname : s.Unambiguous backendRef)
    (hroutable : backendRefIsRoutable backendRef = true) :
    s.findBackendClusterIndex backendRef
      = (s.backendIndex (requestedBackendName backendRef)).bind fun i =>
          s.backends[i]?.map fun cluster => (i, cluster) := by
  rw [findBackendClusterIndex, if_pos hroutable, h.clusterForService_eq,
    h.backendIndex_eq, hname.find?_eq]
  cases hcase : s.backends.zipIdx.reverse.find? fun entry =>
    backendClusterName entry.1 = requestedBackendName backendRef with
  | none => rfl
  | some entry =>
    have hentry := getElem?_of_mem_zipIdx (mem_reverse.mp (mem_of_find?_eq_some hcase))
    rw [map_some, map_some, bind_some, hentry]
    rfl

/-- **Service keys are read back exactly**, whatever is in the name.  The index by key and the index
by text agree on a reference exactly if the text stands for a cluster of its own namespace. -/
theorem service_key_codec (cr : Crates) (s : Snapshot) :
    (∀ name port, backendClusterServiceKey (name ++ ":" ++ portText port) = some (name, port)) ∧
    (∀ text name port, backendClusterServiceKey text = some (name, port) →
      name ++ ":" ++ portText port = text) ∧
    ∀ backendRef : BackendTarget,
      (s.rebuildRuntimeIndexes cr).backendServiceIndex.indexFor backendRef.namespace
          backendRef.name backendRef.port
        = (s.rebuildRuntimeIndexes cr).backendIndex (requestedBackendName backendRef) ↔
      s.Unambiguous backendRef := by
  refine ⟨fun _ _ => clusterServiceKey_eq_some_iff.mpr rfl,
    fun _ _ _ h => (clusterServiceKey_eq_some_iff.mp h).symm, fun backendRef => ?_⟩
  have h := indexed_rebuild cr s
  rw [h.backendServiceIndex, BackendServiceIndex.indexFor_build, h.backendIndex_eq]
  exact ⟨unambiguous_of_index_eq, fun hname => congrArg (Option.map Prod.snd) hname.find?_eq⟩

def slashedCluster : Snapshot := { backends := [{ «namespace» := "a/b", name := "c:80" }] }

/-- **The text does not say where the namespace ends.** -/
theorem service_lookups_differ : slashedCluster.backends.length = 1 ∧
    (slashedCluster.rebuildRuntimeIndexes inertCrates).backendServiceIndex.indexFor "a" "b/c" 80
      = none ∧
    (slashedCluster.rebuildRuntimeIndexes inertCrates).backendIndex "a/b/c:80" = some 0 := by
  decide +kernel

/-! ## Candidates -/

/-- The part of a candidate that both paths choose by. -/
structure CandidateView where
  cluster : BackendCluster
  backendName : String
  weight : ℕ

def viewCandidate (candidate : BackendSelectionCandidate) : CandidateView :=
  ⟨candidate.cluster, candidate.backendName, candidate.weight⟩

def viewCompiled (candidate : CompiledCandidate) : CandidateView :=
  ⟨candidate.cluster, candidate.compiled.backendName, candidate.weight⟩

variable {compiled : CompiledHttpFastBackendRef}

theorem compiledCandidate_eq_some : s.compiledCandidate now compiled = some candidate ↔
      ∃ cluster, s.backends[compiled.backendIndex]? = some cluster ∧
        s.eligibleEndpoints compiled.backendName now cluster ≠ [] ∧
        candidate = ⟨compiled, cluster,
          s.endpointSelectionAvailability cluster compiled.backendName now⟩ := by
  rw [compiledCandidate]
  cases s.backends[compiled.backendIndex]? with
  | none => simp
  | some cluster =>
    simp only [bind_some, count_availability, length_eq_zero_iff,
      Option.some.injEq, exists_eq_left']
    by_cases hnil : s.eligibleEndpoints compiled.backendName now cluster = []
    · simp [hnil]
    · simp [hnil, eq_comm]

theorem compileFastRef_eq_some {backendRef : BackendRef} :
    s.compileHttpFastBackendRef backendRef = some compiled ↔
      backendRef.weight ≠ 0 ∧ backendRefIsRoutable backendRef.toBackendTarget = true ∧
        ∃ i cluster, s.backendIndex (requestedBackendName backendRef.toBackendTarget) = some i ∧
          s.backends[i]? = some cluster ∧
          compiled = ⟨i, backendClusterName cluster, backendRef.weight,
            cluster.endpoints.map fun endpoint => ⟨endpoint⟩⟩ := by
  rw [compileHttpFastBackendRef]
  by_cases hskip : backendRef.weight = 0 ∨ backendRefIsRoutable backendRef.toBackendTarget = false
  · rw [if_pos hskip]
    rcases hskip with hw | hr
    · simp [hw]
    · simp [hr]
  · obtain ⟨hw, hr⟩ := not_or.mp hskip
    rw [if_neg hskip]
    simp only [bind_eq_some_iff, map_eq_some_iff, ne_eq, hw, not_false_iff,
      Bool.not_eq_false _ ▸ hr, true_and]
    refine exists_congr fun i => ⟨?_, ?_⟩
    · rintro ⟨hi, cluster, hcluster, rfl⟩
      exact ⟨cluster, hi, hcluster, rfl⟩
    · rintro ⟨cluster, hi, hcluster, rfl⟩
      exact ⟨hi, cluster, hcluster, rfl⟩

theorem Indexed.view_httpCandidate (h : s.Indexed cr) {backendRef : BackendRef}
    (hname : s.Unambiguous backendRef.toBackendTarget) :
    (s.httpBackendCandidate now backendRef).toOption.map viewCandidate
      = ((s.compileHttpFastBackendRef backendRef).bind (s.compiledCandidate now)).map
          viewCompiled := by
  rw [httpBackendCandidate, compileHttpFastBackendRef]
  by_cases hw : backendRef.weight = 0
  · rw [if_pos hw, if_pos (Or.inl hw)]
    rfl
  by_cases hr : backendRefIsRoutable backendRef.toBackendTarget = false
  · rw [if_neg hw, if_pos hr, if_pos (Or.inr hr)]
    rfl
  rw [if_neg hw, if_neg hr, if_neg (not_or.mpr ⟨hw, hr⟩),
    h.findCluster_eq hname (Bool.not_eq_false _ ▸ hr)]
  cases s.backendIndex (requestedBackendName backendRef.toBackendTarget) with
  | none => rfl
  | some i =>
    rw [bind_some, bind_some]
    cases hcluster : s.backends[i]? with
    | none => rfl
    | some cluster =>
      simp only [map_some, bind_some, nameForIndex_eq h.coherent hcluster,
        eligibleEndpointCount, compiledCandidate, hcluster]
      split <;> rfl

theorem Indexed.map_view_httpCandidates (h : s.Indexed cr)
    (hnames : ∀ backendRef ∈ refs, backendRef.weight ≠ 0 →
      s.Unambiguous backendRef.toBackendTarget) :
    (s.httpBackendCandidates refs now).map viewCandidate
      = (s.compiledCandidates (refs.filterMap s.compileHttpFastBackendRef) now).map
          viewCompiled := by
  rw [httpBackendCandidates, compiledCandidates, filterMap_filterMap, map_filterMap, map_filterMap]
  refine filterMap_congr fun backendRef hmem => ?_
  by_cases hw : backendRef.weight = 0
  · simp [httpBackendCandidate, compileHttpFastBackendRef, hw, BackendRefVisit.toOption]
  · exact h.view_httpCandidate (hnames backendRef hmem hw)

/-! ## Selection -/

/-- A compiled candidate still has the endpoints of its cluster, and their count. -/
structure CompiledCandidate.Current (s : Snapshot) (now : Instant) (candidate : CompiledCandidate) :
    Prop where
  endpoints : candidate.compiled.endpoints
    = candidate.cluster.endpoints.map fun endpoint => ⟨endpoint⟩
  availability : candidate.availability
    = s.endpointSelectionAvailability candidate.cluster candidate.compiled.backendName now

theorem mem_compiledCandidates :
    candidate ∈ s.compiledCandidates (refs.filterMap s.compileHttpFastBackendRef) now ↔
      ∃ backendRef ∈ refs, backendRef.weight ≠ 0 ∧
        backendRefIsRoutable backendRef.toBackendTarget = true ∧
        ∃ i cluster, s.backendIndex (requestedBackendName backendRef.toBackendTarget) = some i ∧
          s.backends[i]? = some cluster ∧
          s.eligibleEndpoints (backendClusterName cluster) now cluster ≠ [] ∧
          candidate = ⟨⟨i, backendClusterName cluster, backendRef.weight,
              cluster.endpoints.map fun endpoint => ⟨endpoint⟩⟩, cluster,
            s.endpointSelectionAvailability cluster (backendClusterName cluster) now⟩ := by
  rw [compiledCandidates, filterMap_filterMap, mem_filterMap]
  refine exists_congr fun backendRef => and_congr_right fun _ => ?_
  rw [bind_eq_some_iff]
  constructor
  · rintro ⟨compiled, hcompile, hcandidate⟩
    obtain ⟨hw, hr, i, cluster, hi, hcluster, rfl⟩ := compileFastRef_eq_some.mp hcompile
    obtain ⟨cluster', hcluster', hne, rfl⟩ := compiledCandidate_eq_some.mp hcandidate
    obtain rfl := Option.some.inj (hcluster.symm.trans hcluster')
    exact ⟨hw, hr, i, cluster, hi, hcluster, hne, rfl⟩
  · rintro ⟨hw, hr, i, cluster, hi, hcluster, hne, rfl⟩
    exact ⟨_, compileFastRef_eq_some.mpr ⟨hw, hr, i, cluster, hi, hcluster, rfl⟩,
      compiledCandidate_eq_some.mpr ⟨cluster, hcluster, hne, rfl⟩⟩

theorem current_of_mem_compiledCandidates
    (h : candidate ∈ s.compiledCandidates (refs.filterMap s.compileHttpFastBackendRef) now) :
    CompiledCandidate.Current s now candidate := by
  obtain ⟨backendRef, -, -, -, i, cluster, -, -, -, rfl⟩ := mem_compiledCandidates.mp h
  exact ⟨rfl, rfl⟩

theorem CompiledCandidate.Current.selectEndpoint_eq (h : CompiledCandidate.Current s now candidate)
    (hne : s.eligibleEndpoints candidate.compiled.backendName now candidate.cluster ≠ [])
    (st : SelectionState) :
    s.selectCompiledHttpFastEndpoint candidate now st
      = ((s.eligibleEndpoints candidate.compiled.backendName now
            candidate.cluster)[st.endpointCursor.toNat
              % (s.eligibleEndpoints candidate.compiled.backendName now
                candidate.cluster).length]?.map fun endpoint =>
          ⟨endpoint, candidate.compiled.backendName⟩, st.nextEndpointTicket.2) := by
  have hcount : candidate.availability.count
      = (s.eligibleEndpoints candidate.compiled.backendName now candidate.cluster).length := by
    rw [h.availability, count_availability]
  have hpos : candidate.availability.count ≠ 0 := by
    rw [hcount]
    exact fun hzero => hne (length_eq_zero_iff.mp hzero)
  -- forgetting the positions turns the filtered entries into the eligible endpoints
  have heligible : (candidate.cluster.endpoints.zipIdx.filter fun entry =>
      s.endpointMatchesSelectionAvailability candidate.compiled.backendName entry.1 now
        candidate.availability).map Prod.fst
      = s.eligibleEndpoints candidate.compiled.backendName now candidate.cluster := by
    rw [← filter_endpointMatches, h.availability]
    conv_rhs => rw [← zipIdx_map_fst 0 candidate.cluster.endpoints, List.filter_map]
    rfl
  rw [selectCompiledHttpFastEndpoint, if_neg hpos]
  simp only [SelectionState.nextEndpointTicket, hcount, ← heligible, List.getElem?_map]
  refine Prod.ext ?_ rfl
  simp only [length_map]
  cases hentry : (candidate.cluster.endpoints.zipIdx.filter fun entry =>
      s.endpointMatchesSelectionAvailability candidate.compiled.backendName entry.1 now
        candidate.availability)[st.endpointCursor.toNat % (candidate.cluster.endpoints.zipIdx.filter
          fun entry => s.endpointMatchesSelectionAvailability candidate.compiled.backendName entry.1
            now candidate.availability).length]? with
  | none => rfl
  | some entry =>
    have hmem := getElem?_of_mem_zipIdx (mem_of_mem_filter (mem_of_getElem? hentry))
    rw [bind_some, h.endpoints, List.getElem?_map, hmem]
    rfl

/-- **A compiled selection is what the slow path draws from the same tickets.** -/
theorem Indexed.selectCompiled_eq (h : s.Indexed cr)
    (hnames : ∀ backendRef ∈ refs, backendRef.weight ≠ 0 →
      s.Unambiguous backendRef.toBackendTarget) (st : SelectionState) :
    s.selectCompiledHttpFastBackend (refs.filterMap s.compileHttpFastBackendRef) now st
      = if s.httpBackendCandidates refs now = [] then (none, st)
        else
          ((s.drawnCandidate refs now st.backendCursor).bind fun candidate =>
            (s.drawnEndpoint candidate now st.endpointCursor).map fun endpoint =>
              ⟨endpoint, candidate.backendName⟩, st.afterBoth) := by
  have hview : (s.httpBackendCandidates refs now).map viewCandidate
      = (s.compiledCandidates (refs.filterMap s.compileHttpFastBackendRef) now).map viewCompiled :=
    h.map_view_httpCandidates hnames
  have htotal : total CompiledCandidate.weight
      (s.compiledCandidates (refs.filterMap s.compileHttpFastBackendRef) now)
      = total BackendSelectionCandidate.weight (s.httpBackendCandidates refs now) := by
    have hsum := congrArg (total CandidateView.weight) hview
    rw [total_map, total_map] at hsum
    exact hsum.symm
  rw [selectCompiledHttpFastBackend, htotal]
  by_cases hnil : s.httpBackendCandidates refs now = []
  · rw [if_pos hnil, hnil]
    rfl
  · have hpos := total_pos_of_ne_nil hnil
    obtain ⟨candidate, hmem, hdrawn⟩ := exists_drawnCandidate hnil st.backendCursor
    have hpick := congrArg (pickWeighted CandidateView.weight
      (spreadWeightedTarget st.backendCursor (total BackendSelectionCandidate.weight
        (s.httpBackendCandidates refs now))) 0) hview
    rw [pickWeighted_map, pickWeighted_map] at hpick
    have hleft : (s.drawnCandidate refs now st.backendCursor).map viewCandidate
        = some (viewCandidate candidate) := by rw [hdrawn, map_some]
    obtain ⟨compiled, hcompiled, hcview⟩ := map_eq_some_iff.mp (hpick.symm.trans hleft)
    have hcompiled' : pickWeighted CompiledCandidate.weight
        (spreadWeightedTarget st.backendCursor (total BackendSelectionCandidate.weight
          (s.httpBackendCandidates refs now))) 0
        (s.compiledCandidates (refs.filterMap s.compileHttpFastBackendRef) now) = some compiled :=
      hcompiled
    have hcurrent := current_of_mem_compiledCandidates (mem_of_pickWeighted hcompiled)
    obtain ⟨hcluster, hbackend, -⟩ := CandidateView.mk.inj hcview
    have hne := eligible_ne_nil_of_mem hmem
    rw [← hcluster, ← hbackend] at hne
    simp only [if_neg hpos.ne', if_neg hnil, SelectionState.nextBackendTicket, hcompiled']
    rw [hcurrent.selectEndpoint_eq hne, hdrawn, bind_some, drawnEndpoint, ← hcluster, ← hbackend]
    rfl

theorem selectCompiled_ne_none
    (hne : s.compiledCandidates (refs.filterMap s.compileHttpFastBackendRef) now ≠ [])
    (st : SelectionState) :
    (s.selectCompiledHttpFastBackend (refs.filterMap s.compileHttpFastBackendRef) now st).1
      ≠ none := by
  have hpos : 0 < total CompiledCandidate.weight
      (s.compiledCandidates (refs.filterMap s.compileHttpFastBackendRef) now) := by
    obtain ⟨candidate, hmem⟩ := exists_mem_of_ne_nil _ hne
    refine Nat.lt_of_lt_of_le ?_ (weight_le_total hmem)
    obtain ⟨backendRef, -, hw, -, i, cluster, -, -, -, rfl⟩ := mem_compiledCandidates.mp hmem
    exact Nat.pos_of_ne_zero fun h => hw (UInt32.toNat_inj.mp h)
  obtain ⟨candidate, hpick⟩ := exists_pickWeighted (spreadTarget_lt hpos st.backendCursor)
  have hmem := mem_of_pickWeighted hpick
  have hcurrent := current_of_mem_compiledCandidates hmem
  obtain ⟨backendRef, -, -, -, i, cluster, -, -, heligible, rfl⟩ := mem_compiledCandidates.mp hmem
  rw [selectCompiledHttpFastBackend]
  simp only [if_neg hpos.ne', SelectionState.nextBackendTicket, hpick]
  rw [hcurrent.selectEndpoint_eq heligible]
  simp only [ne_eq, map_eq_none_iff, List.getElem?_eq_none_iff, not_le]
  exact Nat.mod_lt _ (length_pos_of_ne_nil heligible)

end Snapshot
end NantianGateway
