import NantianGateway.Ir.CompiledRefs

/-!
# Every endpoint handed out may be used

Whichever routine ran, the endpoint belongs to the cluster its reference names, is healthy by the
configuration and by the probes, and is ejected only if the cluster has no better one (`Serves`).
Each routine is traced back to `eligibleEndpoints`.
-/

namespace NantianGateway

open Text List Option

/-! ## Hashing an endpoint -/

theorem toList_loop (bytes : ByteArray) (i : ℕ) (done : List UInt8) :
    ByteArray.toList.loop bytes i done = done.reverse ++ bytes.data.toList.drop i := by
  induction i, done using ByteArray.toList.loop.induct bytes with
  | case1 i done hlt ih =>
    have hi : i < bytes.data.toList.length := hlt
    have hget : bytes.get! i = bytes.data.toList[i] := getElem!_pos bytes.data i hlt
    rw [ByteArray.toList.loop, if_pos hlt, ih, drop_eq_getElem_cons hi, hget]
    simp
  | case2 i done hge =>
    rw [ByteArray.toList.loop, if_neg hge, drop_eq_nil_of_le (Nat.le_of_not_lt hge)]
    simp

theorem utf8Bytes_eq (text : String) :
    utf8Bytes text = text.toList.flatMap String.utf8EncodeChar := by
  rw [utf8Bytes, ByteArray.toList, toList_loop, String.toUTF8, ← String.utf8Encode_toList,
    List.utf8Encode, List.toList_data_toByteArray]
  rfl

theorem utf8EncodeChar_digitChar {digit : ℕ} (h : digit < 10) :
    String.utf8EncodeChar digit.digitChar = [UInt8.ofNat (48 + digit)] := by
  revert digit
  decide

/-- **A buffer with a place for every digit ends in the decimal text.** -/
theorem u32DigitsLoop_eq {cursor value : ℕ} (h : value < 10 ^ (cursor + 1)) (digits : List UInt8) :
    u32DigitsLoop (cursor + 1) value digits
      = (Nat.toDigits 10 value).flatMap String.utf8EncodeChar ++ digits := by
  induction cursor generalizing value digits with
  | zero =>
    have hlt : value < 10 := h
    rw [u32DigitsLoop, if_pos (Nat.div_eq_of_lt hlt), Nat.toDigits_of_lt_base hlt,
      Nat.mod_eq_of_lt hlt, flatMap_singleton, utf8EncodeChar_digitChar hlt]
    rfl
  | succ cursor ih =>
    rw [u32DigitsLoop, Nat.toDigits_eq_if (by decide)]
    by_cases hlt : value < 10
    · rw [if_pos (Nat.div_eq_of_lt hlt), if_pos hlt, Nat.mod_eq_of_lt hlt,
        flatMap_singleton, utf8EncodeChar_digitChar hlt]
      rfl
    · have hne : value / 10 ≠ 0 := by omega
      have hdiv : value / 10 < 10 ^ (cursor + 1) := by
        rw [Nat.pow_succ] at h
        omega
      rw [if_neg hne, if_neg hlt, ih hdiv, flatMap_append, flatMap_singleton,
        utf8EncodeChar_digitChar (Nat.mod_lt value (by decide)), append_assoc]
      rfl

/-- **An endpoint is hashed as its four parts**, and the ten places of the buffer are enough: more
of them change nothing. -/
theorem rendezvousHashEndpoint_eq (hashKey backendName : String) (endpoint : BackendEndpoint) :
    (∀ more, u32DigitsLoop (10 + more) endpoint.port.toNat []
      = u32DigitsLoop 10 endpoint.port.toNat []) ∧
    rendezvousHashEndpoint hashKey backendName endpoint
      = rendezvousHash [hashKey, backendName, endpoint.address, portText endpoint.port] := by
  have hport := endpoint.port.toNat_lt
  constructor
  · intro more
    have hmore : endpoint.port.toNat < 10 ^ (9 + more + 1) :=
      (hport.trans (by decide : 2 ^ 32 < 10 ^ 10)).trans_le
        (Nat.pow_le_pow_right (by decide) (by omega))
    rw [show 10 + more = 9 + more + 1 by omega, u32DigitsLoop_eq hmore,
      u32DigitsLoop_eq (hport.trans (by decide))]
  · rw [rendezvousHashEndpoint, hashRendezvousU32Part, u32DigitsLoop_eq (hport.trans (by decide)),
      ← toList_portText, ← utf8Bytes_eq, append_nil]
    rfl

/-! ## Eligible endpoints -/

namespace Snapshot

variable {cr : Crates} {s : Snapshot} {now : Instant}

/-- An endpoint that a reference may be served by, through a cluster of the snapshot. -/
structure Serves (s : Snapshot) (now : Instant) (backendRef : BackendTarget)
    (cluster : BackendCluster) (endpoint : BackendEndpoint) (backendName : String) : Prop where
  routable : backendRefIsRoutable backendRef = true
  cluster_mem : cluster ∈ s.backends
  named : backendClusterName cluster = requestedBackendName backendRef
  backendName_eq : backendName = backendClusterName cluster
  member : endpoint ∈ cluster.endpoints
  healthy : endpoint.healthy = true
  notActivelyUnhealthy : s.activelyUnhealthy backendName endpoint = false
  lastResort : s.ejected backendName now endpoint = true →
    ∀ other ∈ cluster.endpoints, other.healthy = true →
      s.activelyUnhealthy backendName other = false → s.ejected backendName now other = true

variable {backendRef : BackendTarget} {cluster : BackendCluster} {endpoint : BackendEndpoint}
  {i : ℕ} {refs : List BackendRef} {selected : ResolvedHttpBackend}
  {sessionResolver : SessionPersistence → Option PersistentSessionTarget}
  {routeSession : Option SessionPersistence} {request : RequestMeta} {st : SelectionState}

theorem serves_of_mem_eligible (hroutable : backendRefIsRoutable backendRef = true)
    (hcluster : cluster ∈ s.backends)
    (hnamed : backendClusterName cluster = requestedBackendName backendRef)
    (hendpoint : endpoint ∈ s.eligibleEndpoints (backendClusterName cluster) now cluster) :
    s.Serves now backendRef cluster endpoint (backendClusterName cluster) := by
  obtain ⟨hmem, hserv, hlast⟩ := mem_eligible.mp hendpoint
  rw [servable, Bool.and_eq_true, Bool.not_eq_true'] at hserv
  refine ⟨hroutable, hcluster, hnamed, rfl, hmem, hserv.1, hserv.2, ?_⟩
  intro hejected other hother hhealthy hactive
  have hprimary := hlast hejected other hother
  simpa [primary, servable, hhealthy, hactive] using hprimary

theorem of_findCluster (h : s.Coherent cr)
    (hfound : s.findBackendClusterIndex backendRef = some (i, cluster)) :
    backendRefIsRoutable backendRef = true ∧ cluster ∈ s.backends ∧
      backendClusterName cluster = requestedBackendName backendRef ∧
      s.backendNameForIndex i cluster = backendClusterName cluster ∧
      backendClusterMatchesRef cluster backendRef.namespace backendRef.name backendRef.port
        = true := by
  rw [findBackendClusterIndex] at hfound
  split at hfound
  · next hroutable =>
    obtain ⟨hi, hmatch⟩ := clusterForService_some h hfound
    exact ⟨hroutable, mem_of_getElem? hi, (matchesRef_iff_clusterName.mp hmatch).1,
      nameForIndex_eq h hi, hmatch⟩
  · cases hfound

/-- A reference of a list serves a resolved backend. -/
def ServedByRef (s : Snapshot) (now : Instant) (refs : List BackendRef)
    (selected : ResolvedHttpBackend) : Prop :=
  ∃ backendRef ∈ refs, backendRef.weight ≠ 0 ∧
    ∃ i cluster, s.findBackendClusterIndex backendRef.toBackendTarget = some (i, cluster) ∧
      s.Serves now backendRef.toBackendTarget cluster selected.endpoint selected.backendName

theorem servedByRef_of_found (h : s.Coherent cr) {backendRef : BackendRef}
    (hmem : backendRef ∈ refs) (hw : backendRef.weight ≠ 0)
    (hfound : s.findBackendClusterIndex backendRef.toBackendTarget = some (i, cluster))
    (hname : selected.backendName = s.backendNameForIndex i cluster)
    (hendpoint : selected.endpoint ∈ s.eligibleEndpoints selected.backendName now cluster) :
    s.ServedByRef now refs selected := by
  obtain ⟨hroutable, hcluster, hnamed, hindex, -⟩ := of_findCluster h hfound
  rw [hname, hindex] at hendpoint
  refine ⟨backendRef, hmem, hw, i, cluster, hfound, ?_⟩
  rw [hname, hindex]
  exact serves_of_mem_eligible hroutable hcluster hnamed hendpoint

theorem servedByRef_of_candidate (h : s.Coherent cr) {candidate : BackendSelectionCandidate}
    (hmem : candidate ∈ s.httpBackendCandidates refs now)
    (hendpoint : endpoint ∈ s.eligibleEndpoints candidate.backendName now candidate.cluster)
    (routeSession : Option SessionPersistence) :
    s.ServedByRef now refs (s.resolved routeSession candidate endpoint) := by
  obtain ⟨backendRef, href, hcandidate⟩ := mem_httpCandidates.mp hmem
  obtain ⟨hw, -, i, cluster, hfound, -, rfl⟩ := httpCandidate_eq_candidate.mp hcandidate
  exact servedByRef_of_found h href hw hfound rfl hendpoint

/-! ## The routines -/

theorem servedByRef_of_persistent (h : s.Coherent cr) {target : PersistentSessionTarget}
    {session : Option SessionPersistence}
    (hselected : s.resolvePersistentHttpBackend now target session refs = some selected) :
    s.ServedByRef now refs selected := by
  induction refs with
  | nil => cases hselected
  | cons backendRef refs ih =>
    have hlater : s.resolvePersistentHttpBackend now target session refs = some selected →
        s.ServedByRef now (backendRef :: refs) selected := by
      intro hrest
      obtain ⟨found, hfound, hserves⟩ := ih hrest
      exact ⟨found, mem_cons_of_mem _ hfound, hserves⟩
    rw [resolvePersistentHttpBackend] at hselected
    split at hselected
    · exact hlater hselected
    · next hskip =>
      cases hfound : s.findBackendClusterIndex backendRef.toBackendTarget with
      | none =>
        rw [hfound] at hselected
        exact hlater hselected
      | some found =>
        rw [hfound] at hselected
        simp only at hselected
        split at hselected
        · exact hlater hselected
        · obtain ⟨endpoint, hendpoint, rfl⟩ := map_eq_some_iff.mp hselected
          refine servedByRef_of_found h mem_cons_self (not_or.mp hskip).1 hfound rfl ?_
          rw [← filter_endpointMatches]
          refine mem_filter.mpr ⟨mem_of_find?_eq_some hendpoint, ?_⟩
          have hmatches := List.find?_some hendpoint
          rw [Bool.and_eq_true, Bool.and_eq_true] at hmatches
          exact hmatches.1.1

theorem servedByRef_of_policyPersistent (h : s.Coherent cr)
    (hselected : s.resolveBackendPolicyPersistentHttpBackend now refs sessionResolver
      = some selected) : s.ServedByRef now refs selected := by
  obtain ⟨backendRef, -, hselected⟩ := exists_of_findSome?_eq_some hselected
  split at hselected
  · cases hselected
  · obtain ⟨found, -, hselected⟩ := bind_eq_some_iff.mp hselected
    obtain ⟨session, -, hselected⟩ := bind_eq_some_iff.mp hselected
    obtain ⟨target, -, hselected⟩ := bind_eq_some_iff.mp hselected
    exact servedByRef_of_persistent h hselected

theorem selectByHash_eq (s : Snapshot) (cluster : BackendCluster)
    (backendName hashKey : String) (now : Instant) :
    s.selectClusterEndpointByHash cluster backendName hashKey now
      = (s.eligibleEndpoints backendName now cluster).argmax
        fun endpoint => (rendezvousHashEndpoint hashKey backendName endpoint).toNat := by
  rw [selectClusterEndpointByHash]
  dsimp only
  rw [count_availability, ← foldl_filter, filter_endpointMatches]
  generalize s.eligibleEndpoints backendName now cluster = eligible
  split
  · next hnone =>
    rw [length_eq_zero_iff.mp hnone]
    rfl
  · -- the loop keeps the score beside the endpoint
    have hpairs := Best.foldl_keepFirst (fun pair => pair.1.toNat) (eligible.map fun endpoint =>
      (rendezvousHashEndpoint hashKey backendName endpoint, endpoint))
    rw [foldl_map, Best.argmax_map] at hpairs
    refine (congrArg (Option.map Prod.snd) hpairs).trans ?_
    rw [Option.map_map]
    exact Option.map_id'

/-- **Consistent hashing moves only what it must.**  An endpoint that is chosen in one state of a
backend and eligible in another is chosen there too, or gives way to one that was not eligible. -/
theorem consistent_hash_keeps {s s' : Snapshot} {now now' : Instant}
    {cluster cluster' : BackendCluster} {backendName hashKey : String} {A B : List BackendEndpoint}
    (hA : s.eligibleEndpoints backendName now cluster = A)
    (hB : s'.eligibleEndpoints backendName now' cluster' = B)
    (hdistinct : ∀ endpoint ∈ A ++ B, ∀ other ∈ A ++ B,
      rendezvousHashEndpoint hashKey backendName endpoint
        = rendezvousHashEndpoint hashKey backendName other → endpoint = other)
    {endpoint : BackendEndpoint}
    (h : s.selectClusterEndpointByHash cluster backendName hashKey now = some endpoint)
    (hmem : endpoint ∈ B) :
    ∃ chosen, s'.selectClusterEndpointByHash cluster' backendName hashKey now' = some chosen ∧
      (chosen = endpoint ∨ chosen ∈ B ∧ chosen ∉ A) := by
  rw [selectByHash_eq, hA] at h
  rw [selectByHash_eq, hB]
  cases hchosen : B.argmax fun endpoint =>
      (rendezvousHashEndpoint hashKey backendName endpoint).toNat with
  | none => exact (ne_nil_of_mem hmem (argmax_eq_none.mp hchosen)).elim
  | some chosen =>
    have hnew := argmax_mem hchosen
    refine ⟨chosen, rfl, or_iff_not_imp_right.mpr fun hold => ?_⟩
    have hbefore : chosen ∈ A := not_not.mp fun hnot => hold ⟨hnew, hnot⟩
    -- each is a maximum of a list that has the other
    have hle := le_of_mem_argmax hbefore h
    have hge := le_of_mem_argmax hmem hchosen
    exact hdistinct chosen (mem_append_right _ hnew) endpoint (mem_append_right _ hmem)
      (UInt64.toNat_inj.mp (le_antisymm hle hge))

private def hashedCluster (addresses : List String) : BackendCluster where
  name := "app:8080"
  «namespace» := "default"
  endpoints := addresses.map fun address => { address, port := 8080, healthy := true }

theorem consistent_hash_keeps_scaledOut :
    ∃ chosen, ({} : Snapshot).selectClusterEndpointByHash
        (hashedCluster ["10.0.0.3", "10.0.0.2", "10.0.0.1"]) "default/app:8080" "alice" 0
          = some chosen ∧
      chosen.address ≠ "10.0.0.2" := by
  obtain ⟨chosen, hchosen, hkept⟩ := @consistent_hash_keeps {} {} 0 0
    (hashedCluster ["10.0.0.1", "10.0.0.2"]) (hashedCluster ["10.0.0.3", "10.0.0.2", "10.0.0.1"])
    "default/app:8080" "alice" _ _ rfl rfl (by decide +kernel)
    { address := "10.0.0.1", port := 8080, healthy := true } (by decide +kernel) (by decide +kernel)
  refine ⟨chosen, hchosen, ?_⟩
  rcases hkept with rfl | ⟨hmem, hnot⟩
  · decide
  · revert chosen
    decide +kernel

theorem servedByRef_of_hash (h : s.Coherent cr) {policy : Option LoadBalancingPolicy}
    (hselected : s.resolveConsistentHashHttpBackend refs now policy routeSession request
      = some selected) : s.ServedByRef now refs selected := by
  obtain ⟨policy, -, hselected⟩ := bind_eq_some_iff.mp hselected
  split at hselected
  · cases hselected
  · obtain ⟨hashKey, -, hselected⟩ := bind_eq_some_iff.mp hselected
    obtain ⟨best, hbest, rfl⟩ := map_eq_some_iff.mp hselected
    refine Best.of_foldl_eq_some
      (P := fun item : Float × ResolvedHttpBackend => s.ServedByRef now refs item.2)
      (fun candidate hcandidate old new hstep => ?_) hbest
    split at hstep
    · exact Or.inl hstep
    · next endpoint hendpoint =>
      simp only at hstep
      split at hstep
      · exact Or.inl hstep
      · right
        rw [← Option.some.inj hstep]
        rw [selectByHash_eq] at hendpoint
        exact servedByRef_of_candidate h hcandidate (argmax_mem hendpoint) routeSession

theorem servedByRef_of_resolve (h : s.Coherent cr)
    (hselected : (s.resolveHttpBackendRefsWithSession refs routeSession request sessionResolver now
      st).1.selected = some selected) : s.ServedByRef now refs selected := by
  rw [resolveHttpBackendRefsWithSession] at hselected
  split at hselected
  · next found hfound =>
    obtain ⟨target, -, hfound⟩ := bind_eq_some_iff.mp hfound
    rw [← Option.some.inj hselected]
    exact servedByRef_of_persistent h hfound
  · split at hselected
    · next found hfound =>
      rw [← Option.some.inj hselected]
      split at hfound
      · exact servedByRef_of_policyPersistent h hfound
      · cases hfound
    · simp only [candidateCount_visit, length_eq_zero_iff] at hselected
      split at hselected
      · cases hselected
      · next hne =>
        split at hselected
        · next found hfound =>
          rw [← Option.some.inj hselected]
          exact servedByRef_of_hash h hfound
        · obtain ⟨candidate, hmem, -, endpoint, hendpoint, -, hspec⟩ :=
            resolveWeighted_spec hne routeSession st
          rw [hspec] at hselected
          rw [← Option.some.inj hselected]
          exact servedByRef_of_candidate h hmem hendpoint routeSession

theorem serves_of_selectBackendRef (h : s.Coherent cr) {selected : BackendEndpoint × String}
    (hselected : (s.selectBackendRef backendRef now st).1 = some selected) :
    ∃ i cluster, s.findBackendClusterIndex backendRef = some (i, cluster) ∧
      s.Serves now backendRef cluster selected.1 selected.2 := by
  rw [selectBackendRef] at hselected
  split at hselected
  · cases hselected
  · cases hfound : s.findBackendClusterIndex backendRef with
    | none =>
      rw [hfound] at hselected
      cases hselected
    | some found =>
      obtain ⟨i, cluster⟩ := found
      obtain ⟨hroutable, hcluster, hnamed, hindex, -⟩ := of_findCluster h hfound
      simp only [hfound, hindex] at hselected
      obtain ⟨endpoint, hendpoint, rfl⟩ := map_eq_some_iff.mp hselected
      refine ⟨i, cluster, rfl, serves_of_mem_eligible hroutable hcluster hnamed ?_⟩
      rw [selectClusterEndpoint_eq] at hendpoint
      split at hendpoint
      · cases hendpoint
      · exact mem_of_getElem? hendpoint

theorem serves_of_selectCompiled (h : s.Indexed cr) {selected : CompiledHttpFastBackendSelection}
    (hselected : (s.selectCompiledHttpFastBackend (refs.filterMap s.compileHttpFastBackendRef) now
      st).1 = some selected) :
    ∃ backendRef ∈ refs, backendRef.weight ≠ 0 ∧
      ∃ i cluster, s.backendIndex (requestedBackendName backendRef.toBackendTarget) = some i ∧
        s.backends[i]? = some cluster ∧
        s.Serves now backendRef.toBackendTarget cluster selected.endpoint selected.backendName := by
  rw [selectCompiledHttpFastBackend] at hselected
  simp only at hselected
  split at hselected
  · cases hselected
  · split at hselected
    · cases hselected
    · next candidate hcandidate =>
      have hmem := Weighted.mem_of_pickWeighted hcandidate
      have hcurrent := current_of_mem_compiledCandidates hmem
      obtain ⟨backendRef, href, hw, hroutable, i, cluster, hi, hcluster, hne, rfl⟩ :=
        mem_compiledCandidates.mp hmem
      rw [hcurrent.selectEndpoint_eq hne] at hselected
      obtain ⟨endpoint, hendpoint, rfl⟩ := map_eq_some_iff.mp hselected
      exact ⟨backendRef, href, hw, i, cluster, hi, hcluster,
        serves_of_mem_eligible hroutable (mem_of_getElem? hcluster)
          (h.clusterName_of_backendIndex hi hcluster) (mem_of_getElem? hendpoint)⟩

/-! ## Nothing is missed -/

/-- A reference names no cluster, or one without usable endpoints. -/
def NothingServable (s : Snapshot) (backendRef : BackendRef) : Prop :=
  (∀ cluster ∈ s.backends, backendClusterMatchesRef cluster backendRef.namespace backendRef.name
      backendRef.port = false) ∨
    ∃ i cluster, s.findBackendClusterIndex backendRef.toBackendTarget = some (i, cluster) ∧
      ∀ endpoint ∈ cluster.endpoints, s.servable (backendClusterName cluster) endpoint = false

theorem not_servable_of_not_candidate (h : s.Coherent cr) {backendRef : BackendRef}
    (hw : backendRef.weight ≠ 0)
    (hroutable : backendRefIsRoutable backendRef.toBackendTarget = true)
    (hnot : (s.httpBackendCandidate now backendRef).toOption = none) :
    s.NothingServable backendRef := by
  cases hfound : s.findBackendClusterIndex backendRef.toBackendTarget with
  | none =>
    left
    rw [findBackendClusterIndex, if_pos hroutable] at hfound
    exact (clusterForService_eq_none h).mp hfound
  | some found =>
    obtain ⟨i, cluster⟩ := found
    right
    refine ⟨i, cluster, hfound, ?_⟩
    obtain ⟨-, -, -, hindex, -⟩ := of_findCluster h hfound
    rw [← eligible_eq_nil, ← hindex]
    by_contra hne
    rw [httpCandidate_eq_candidate.mpr ⟨hw, hroutable, i, cluster, hfound, hne, rfl⟩] at hnot
    cases hnot

theorem not_servable_of_resolve_eq_none (h : s.Coherent cr)
    (hnone : (s.resolveHttpBackendRefsWithSession refs routeSession request sessionResolver now
      st).1.selected = none) {backendRef : BackendRef} (hmem : backendRef ∈ refs)
    (hw : backendRef.weight ≠ 0)
    (hroutable : backendRefIsRoutable backendRef.toBackendTarget = true) :
    s.NothingServable backendRef := by
  have hnil : s.httpBackendCandidates refs now = [] := by
    by_contra hne
    exact selected_ne_none s now refs routeSession request sessionResolver hne st hnone
  rw [httpBackendCandidates, filterMap_eq_nil_iff] at hnil
  exact not_servable_of_not_candidate h hw hroutable (hnil backendRef hmem)

theorem not_servable_of_selectCompiled_eq_none (h : s.Indexed cr)
    (hnone : (s.selectCompiledHttpFastBackend (refs.filterMap s.compileHttpFastBackendRef) now
      st).1 = none) {backendRef : BackendRef} (hmem : backendRef ∈ refs)
    (hw : backendRef.weight ≠ 0)
    (hroutable : backendRefIsRoutable backendRef.toBackendTarget = true) :
    (∀ cluster ∈ s.backends, backendClusterName cluster
        ≠ requestedBackendName backendRef.toBackendTarget) ∨
      ∃ i cluster, s.backendIndex (requestedBackendName backendRef.toBackendTarget) = some i ∧
        s.backends[i]? = some cluster ∧
        ∀ endpoint ∈ cluster.endpoints,
          s.servable (backendClusterName cluster) endpoint = false := by
  cases hi : s.backendIndex (requestedBackendName backendRef.toBackendTarget) with
  | none =>
    left
    rw [h.backendIndex_eq, map_eq_none_iff, List.find?_eq_none] at hi
    refine forall_mem_zipIdx.mp fun entry hentry hname => ?_
    exact hi entry (mem_reverse.mpr hentry) (decide_eq_true hname)
  | some i =>
    right
    obtain ⟨cluster, hcluster⟩ := h.exists_of_backendIndex hi
    refine ⟨i, cluster, rfl, hcluster, ?_⟩
    rw [← eligible_eq_nil]
    by_contra hne
    have hcandidate := mem_compiledCandidates.mpr
      ⟨backendRef, hmem, hw, hroutable, i, cluster, hi, hcluster, hne, rfl⟩
    exact selectCompiled_ne_none (ne_nil_of_mem hcandidate) st hnone

/-! ## The compiled references -/

theorem Indexed.compiledIndex_eq_iff (h : s.Indexed cr) {backendRef : BackendRef}
    (hweight : backendRef.weight ≠ 0)
    (hroutable : backendRefIsRoutable backendRef.toBackendTarget = true) :
    (s.compileHttpFastBackendRef backendRef).map (fun compiled => compiled.backendIndex)
        = (s.findBackendClusterIndex backendRef.toBackendTarget).map Prod.fst ↔
      s.Unambiguous backendRef.toBackendTarget := by
  have hcompiled : (s.compileHttpFastBackendRef backendRef).map (fun compiled =>
      compiled.backendIndex)
          = s.backendIndex (requestedBackendName backendRef.toBackendTarget) := by
    rw [compileHttpFastBackendRef, if_neg (by simp [hweight, hroutable])]
    cases hi : s.backendIndex (requestedBackendName backendRef.toBackendTarget) with
    | none => rfl
    | some i =>
      obtain ⟨cluster, hcluster⟩ := h.exists_of_backendIndex hi
      rw [bind_some, hcluster]
      rfl
  have hfound : (s.findBackendClusterIndex backendRef.toBackendTarget).map Prod.fst
      = (s.backends.zipIdx.reverse.find? fun entry => backendClusterMatchesRef entry.1
          backendRef.namespace backendRef.name backendRef.port).map Prod.snd := by
    rw [findBackendClusterIndex, if_pos hroutable, h.clusterForService_eq, Option.map_map]
    rfl
  rw [hcompiled, hfound, h.backendIndex_eq]
  constructor
  · exact fun heq => unambiguous_of_index_eq heq.symm
  · exact fun hname => congrArg (Option.map Prod.snd) hname.find?_eq.symm

theorem nothingServable_of_selectCompiled_eq_none (h : s.Indexed cr)
    (hnone : (s.selectCompiledHttpFastBackend (refs.filterMap s.compileHttpFastBackendRef) now
      st).1 = none) {backendRef : BackendRef} (hmem : backendRef ∈ refs)
    (hweight : backendRef.weight ≠ 0)
    (hroutable : backendRefIsRoutable backendRef.toBackendTarget = true)
    (hname : s.Unambiguous backendRef.toBackendTarget) : s.NothingServable backendRef := by
  rcases not_servable_of_selectCompiled_eq_none h hnone hmem hweight hroutable with
    habsent | ⟨i, cluster, hi, hcluster, hendpoints⟩
  · left
    intro cluster hcluster
    rw [Bool.eq_false_iff]
    exact fun hmatch => habsent cluster hcluster (matchesRef_iff_clusterName.mp hmatch).1
  · right
    refine ⟨i, cluster, ?_, hendpoints⟩
    rw [h.findCluster_eq hname hroutable, hi, bind_some, hcluster]
    rfl

/-! ## All routines together -/

/-- **Every endpoint handed out may be used, and none is missed**, by the routines that look a
cluster up by namespace, name and port without more, by the compiled references if the text of each
stands for a cluster of its own namespace.  That is also exactly when a compiled reference points
at the cluster the reference names. -/
theorem endpoint_eligibility (cr : Crates) (s : Snapshot) (h : s.Coherent cr) (now : Instant) :
    (∀ refs routeSession request sessionResolver st selected,
      (s.resolveHttpBackendRefsWithSession refs routeSession request sessionResolver now
        st).1.selected = some selected →
      ∃ backendRef ∈ refs, backendRef.weight ≠ 0 ∧
        ∃ i cluster, s.findBackendClusterIndex backendRef.toBackendTarget = some (i, cluster) ∧
          backendClusterMatchesRef cluster backendRef.namespace backendRef.name backendRef.port
            = true ∧
          s.Serves now backendRef.toBackendTarget cluster selected.endpoint selected.backendName) ∧
    (∀ refs routeSession request sessionResolver st,
      (s.resolveHttpBackendRefsWithSession refs routeSession request sessionResolver now
        st).1.selected = none →
      ∀ backendRef ∈ refs, backendRef.weight ≠ 0 →
        backendRefIsRoutable backendRef.toBackendTarget = true → s.NothingServable backendRef) ∧
    (∀ backendRef st selected, (s.selectBackendRef backendRef now st).1 = some selected →
      ∃ i cluster, s.findBackendClusterIndex backendRef = some (i, cluster) ∧
        backendClusterMatchesRef cluster backendRef.namespace backendRef.name backendRef.port
          = true ∧
        s.Serves now backendRef cluster selected.1 selected.2) ∧
    (s.runtimeIndexesReady = true → ∀ refs : List BackendRef,
      (∀ backendRef ∈ refs, backendRef.weight ≠ 0 →
        backendRefIsRoutable backendRef.toBackendTarget = true →
        s.Unambiguous backendRef.toBackendTarget) →
      (∀ st selected, (s.selectCompiledHttpFastBackend
          (refs.filterMap s.compileHttpFastBackendRef) now st).1 = some selected →
        ∃ backendRef ∈ refs, backendRef.weight ≠ 0 ∧
          ∃ i cluster, s.findBackendClusterIndex backendRef.toBackendTarget = some (i, cluster) ∧
            backendClusterMatchesRef cluster backendRef.namespace backendRef.name backendRef.port
              = true ∧
            s.Serves now backendRef.toBackendTarget cluster selected.endpoint
              selected.backendName) ∧
      ∀ st, (s.selectCompiledHttpFastBackend
          (refs.filterMap s.compileHttpFastBackendRef) now st).1 = none →
        ∀ backendRef ∈ refs, backendRef.weight ≠ 0 →
          backendRefIsRoutable backendRef.toBackendTarget = true →
          s.NothingServable backendRef) ∧
    (s.runtimeIndexesReady = true → ∀ backendRef : BackendRef, backendRef.weight ≠ 0 →
      backendRefIsRoutable backendRef.toBackendTarget = true →
      ((s.compileHttpFastBackendRef backendRef).map (fun compiled => compiled.backendIndex)
          = (s.findBackendClusterIndex backendRef.toBackendTarget).map Prod.fst ↔
        s.Unambiguous backendRef.toBackendTarget)) := by
  refine ⟨?_, ?_, ?_, ?_, fun hready _ => (h hready).compiledIndex_eq_iff⟩
  · intro refs routeSession request sessionResolver st selected hselected
    obtain ⟨backendRef, hmem, hw, i, cluster, hfound, hserves⟩ := servedByRef_of_resolve h hselected
    exact ⟨backendRef, hmem, hw, i, cluster, hfound, (of_findCluster h hfound).2.2.2.2, hserves⟩
  · intro refs routeSession request sessionResolver st hnone backendRef hmem hw hroutable
    exact not_servable_of_resolve_eq_none h hnone hmem hw hroutable
  · intro backendRef st selected hselected
    obtain ⟨i, cluster, hfound, hserves⟩ := serves_of_selectBackendRef h hselected
    exact ⟨i, cluster, hfound, (of_findCluster h hfound).2.2.2.2, hserves⟩
  · intro hready refs hnames
    refine ⟨?_, ?_⟩
    · intro st selected hselected
      obtain ⟨backendRef, hmem, hw, i, cluster, hi, hcluster, hserves⟩ :=
        serves_of_selectCompiled (h hready) hselected
      have hname := hnames backendRef hmem hw hserves.routable
      have hfound : s.findBackendClusterIndex backendRef.toBackendTarget = some (i, cluster) := by
        rw [(h hready).findCluster_eq hname hserves.routable, hi, bind_some, hcluster]
        rfl
      exact ⟨backendRef, hmem, hw, i, cluster, hfound, (of_findCluster h hfound).2.2.2.2, hserves⟩
    · intro st hnone backendRef hmem hw hroutable
      exact nothingServable_of_selectCompiled_eq_none (h hready) hnone hmem hw hroutable
        (hnames backendRef hmem hw hroutable)

def halfHealthySnapshot : Snapshot :=
  { backends :=
      [{ name := "app:8080"
         «namespace» := "default"
         endpoints :=
          [{ address := "10.0.0.1", port := 8080, healthy := false },
           { address := "10.0.0.2", port := 8080, healthy := true }] }] }

theorem endpoint_eligibility_halfHealthy :
    ∃ selected, ((halfHealthySnapshot.rebuildRuntimeIndexes
        inertCrates).resolveHttpBackendRefsWithSession
          [{ «namespace» := "default", name := "app", port := 8080 }] none {} (fun _ => none) 0
          {}).1.selected = some selected ∧
      selected.endpoint.address = "10.0.0.2" ∧
      ∃ cluster, (halfHealthySnapshot.rebuildRuntimeIndexes inertCrates).Serves 0
        { «namespace» := "default", name := "app", port := 8080 } cluster selected.endpoint
        selected.backendName := by
  have hselected : ((halfHealthySnapshot.rebuildRuntimeIndexes
      inertCrates).resolveHttpBackendRefsWithSession
        [{ «namespace» := "default", name := "app", port := 8080 }] none {} (fun _ => none) 0
        {}).1.selected.map (fun selected => selected.endpoint.address) = some "10.0.0.2" := by
    decide +kernel
  obtain ⟨selected, hselected, haddress⟩ := map_eq_some_iff.mp hselected
  obtain ⟨backendRef, hmem, -, i, cluster, -, -, hserves⟩ :=
    (endpoint_eligibility inertCrates _ (indexed_rebuild _ _).coherent 0).1 _ _ _ _ _ _ hselected
  cases mem_singleton.mp hmem
  exact ⟨selected, hselected, haddress, cluster, hserves⟩

/-- A cluster `c` of the namespace `a/b`, which the reference to `b/c` of the namespace `a` is
spelled like. -/
def spelledAlikeSnapshot : Snapshot :=
  { backends :=
      [{ name := "c:8080"
         «namespace» := "a/b"
         endpoints := [{ address := "10.0.0.1", port := 8080, healthy := true }] }] }

/-- **A compiled reference serves from a cluster that it does not name**, where the slow path finds
none. -/
theorem compiled_serves_other_namespace :
    ((spelledAlikeSnapshot.rebuildRuntimeIndexes inertCrates).selectCompiledHttpFastBackend
        ([{ «namespace» := "a", name := "b/c", port := 8080 }].filterMap
          (spelledAlikeSnapshot.rebuildRuntimeIndexes inertCrates).compileHttpFastBackendRef) 0
        {}).1.map (fun selected => (selected.backendName, selected.endpoint.address))
      = some ("a/b/c:8080", "10.0.0.1") ∧
    (spelledAlikeSnapshot.backends.all fun cluster =>
      !backendClusterMatchesRef cluster "a" "b/c" 8080) = true ∧
    ((spelledAlikeSnapshot.rebuildRuntimeIndexes inertCrates).resolveHttpBackendRefsWithSession
        [{ «namespace» := "a", name := "b/c", port := 8080 }] none {} (fun _ => none) 0
        {}).1.selected = none := by
  decide +kernel

end Snapshot
end NantianGateway
