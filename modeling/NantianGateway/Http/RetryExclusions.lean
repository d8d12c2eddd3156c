import NantianGateway.Http.Retry
import NantianGateway.Ir.WeightedSplit

/-!
# Looking for an endpoint that has not failed

`select_backend_with_transport_retry_exclusions` selects until an endpoint is not excluded, at most
eight times or once more than there are exclusions.  Where one rule draws tickets the selections
meet the endpoints in turn; but **eight copies of an excluded endpoint hide the ones after them**.
-/

namespace NantianGateway.Http

open Option Snapshot List

section Turns

variable {α β : Type} {l : List α} {key : α → β} {banned : List β}

/-- **In turns, one more than the banned keys meet a key that is not banned**, if there is one. -/
theorem exists_turn_not_banned (hl : (l.map key).Nodup) {x : α} (hx : x ∈ l)
    (hfree : key x ∉ banned) (start : ℕ) :
    ∃ j ≤ banned.length, ∃ y, l[(start + j) % l.length]? = some y ∧ key y ∉ banned := by
  by_contra! hbanned
  have hsub : ((l.rotate start).take (banned.length + 1)).map key ⊆ banned := by
    intro k hk
    obtain ⟨y, hy, rfl⟩ := mem_map.mp hk
    obtain ⟨j, hj, rfl⟩ := mem_iff_getElem.mp hy
    rw [length_take, length_rotate] at hj
    refine hbanned j (by omega) _ ?_
    rw [getElem_take, getElem_rotate, add_comm]
    exact getElem?_eq_getElem _
  have hnodup : (((l.rotate start).take (banned.length + 1)).map key).Nodup := by
    refine List.Nodup.sublist ((take_sublist _ _).map key) ?_
    rw [map_rotate]
    exact nodup_rotate.mpr hl
  have hle := (subperm_of_subset hnodup hsub).length_le
  rw [length_map, length_take, length_rotate] at hle
  -- so few turns that they are all there are
  rw [take_of_length_le (by rw [length_rotate]; omega)] at hsub
  exact hfree (hsub (mem_map_of_mem (mem_rotate.mpr hx)))

end Turns

/-! ## Selections in a row -/

section

variable {cr : Crates} {s : Snapshot} {request : RequestMeta} {clock : ℕ → Instant}
  {resolver : SessionPersistence → Option PersistentSessionTarget} {way : RouteMatch}
  {backendRef : BackendRef}

variable (cr s request resolver) in
/-- One rule accepts the request, and resolves its one reference by tickets. -/
structure RoundRobin (now : Instant) (way : RouteMatch) (backendRef : BackendRef) : Prop where
  choice : httpChoice cr s request = some way
  single : (s.httpRuleContexts request).countP
    (fun context => (bestHttpRuleMatch cr context.rule request).isSome) = 1
  refs : way.rule.backendRefs = [backendRef]
  byTicket : s.fixedResolution way.rule.backendRefs way.rule.sessionPersistence request resolver now
    = none

theorem RoundRobin.ticketsPerCall_eq {now : Instant}
    (h : RoundRobin cr s request resolver now way backendRef) :
    ticketsPerCall cr s request resolver now = 1 := by
  have hle : ticketsPerCall cr s request resolver now ≤ 1 :=
    h.single ▸ countP_mono_left fun context _ hdraws => (Bool.and_eq_true_iff.mp hdraws).1
  obtain ⟨drawn, hdrawn, -⟩ := exists_winner h.choice h.byTicket
  omega

theorem selectBackend_of_httpRoute (h : isGrpcRequest request = false) {now : Instant}
    {st : SelectionState} {route : SelectedHttpRoute} {selected : SelectedBackend}
    (hroute : (selectHttpRoute cr s request resolver now st).1 = some route)
    (hbackend : route.intoBackend = some selected) :
    selectBackend cr s request resolver now st
      = (some selected, (selectHttpRoute cr s request resolver now st).2) := by
  have hhttp : selectHttpBackend cr s request resolver now st
      = (some selected, (selectHttpRoute cr s request resolver now st).2) :=
    Prod.ext ((congrArg (·.bind SelectedHttpRoute.intoBackend) hroute).trans hbackend) rfl
  rw [selectBackend, selectGrpcBackend_of_not_grpc h]
  simp only [hhttp]

theorem RoundRobin.exists_turns (h : RoundRobin cr s request resolver (clock 0) way backendRef)
    (hhealth : ∀ j, s.SameHealth (clock j) (clock 0)) (hgrpc : isGrpcRequest request = false)
    (st : SelectionState) :
    ∃ candidate, s.httpBackendCandidates [backendRef] (clock 0) = [candidate] ∧
      ∀ j, ∃ endpoint selected,
        s.drawnEndpoint candidate (clock 0) (st.advance j).endpointCursor = some endpoint ∧
        selectBackend cr s request resolver (clock j) (callState cr s request resolver clock st j)
          = (some selected, callState cr s request resolver clock st (j + 1)) ∧
        TransportRetryExcludedEndpoint.new selected.backendName selected.backend
          = .new candidate.backendName endpoint := by
  obtain ⟨candidate, hcandidate⟩ : ∃ candidate,
      s.httpBackendCandidates [backendRef] (clock 0) = [candidate] := by
    have hne := h.refs ▸ candidates_ne_nil s _ _ _ _ _ h.byTicket
    exact length_eq_one_iff.mp (le_antisymm (length_filterMap_le _ _) (length_pos_of_ne_nil hne))
  obtain ⟨drawn, hdrawn, htakes⟩ := exists_takes hhealth h.choice h.byTicket h.ticketsPerCall_eq
  obtain rfl : drawn = 0 := by omega
  rw [h.refs] at htakes
  refine ⟨candidate, hcandidate, fun j => ?_⟩
  obtain ⟨-, -, -, drawn, endpoint, route, hdrawn, hendpoint, htaken⟩ := htakes st j
  obtain ⟨drawn', hmem, hdrawn'⟩ := exists_drawnCandidate (hcandidate ▸ cons_ne_nil _ _)
    (st.advance (0 + 1 * j)).backendCursor
  obtain rfl : drawn = candidate := by
    rw [hcandidate, mem_singleton] at hmem
    exact (some.inj (hdrawn.symm.trans hdrawn')).trans hmem
  rw [Nat.zero_add, Nat.one_mul] at hendpoint
  obtain ⟨selected, hselected, hname⟩ : ∃ selected, route.intoBackend = some selected ∧
      TransportRetryExcludedEndpoint.new selected.backendName selected.backend
        = .new drawn.backendName endpoint := by
    rw [SelectedHttpRoute.intoBackend, htaken.backend, htaken.backendName]
    exact ⟨_, rfl, rfl⟩
  exact ⟨endpoint, selected, hendpoint,
    selectBackend_of_httpRoute hgrpc htaken.call_eq hselected, hname⟩

end

/-! ## The search -/

section

variable {cr : Crates} {s : Snapshot} {proxy : GatewayProxy} {request : DownstreamRequest}

theorem reselectLoop_excluded_iff (excluded : SelectedBackend → Bool)
    (lastResort : Option SelectedBackend) {moments : List Moment}
    (hselects : ∀ moment ∈ moments, (reselect cr s proxy request moment).isSome = true)
    (hlast : lastResort.all excluded = true) (hsome : lastResort.isSome = true ∨ moments ≠ []) :
    ∃ selected, reselectLoop cr s proxy request excluded lastResort moments = some selected ∧
      (excluded selected = true ↔
        ∀ moment ∈ moments, (reselect cr s proxy request moment).all excluded = true) := by
  induction moments generalizing lastResort with
  | nil =>
    obtain ⟨first, rfl⟩ := isSome_iff_exists.mp (hsome.resolve_right fun h => h rfl)
    exact ⟨first, rfl, iff_of_true hlast fun _ h => absurd h not_mem_nil⟩
  | cons moment moments ih =>
    obtain ⟨hfirst, hselects⟩ := forall_mem_cons.mp hselects
    obtain ⟨selected, hselected⟩ := isSome_iff_exists.mp hfirst
    rw [reselectLoop, hselected, bind_some]
    by_cases hexcluded : excluded selected = true
    · rw [if_pos hexcluded]
      have hlast' : (lastResort.or (some selected)).all excluded = true ∧
          (lastResort.or (some selected)).isSome = true := by
        cases lastResort with
        | none => exact ⟨hexcluded, rfl⟩
        | some first => exact ⟨hlast, rfl⟩
      obtain ⟨found, hfound, hiff⟩ := ih _ hselects hlast'.1 (.inl hlast'.2)
      refine ⟨found, hfound, hiff.trans ?_⟩
      rw [forall_mem_cons, hselected, and_iff_right]
      exact hexcluded
    · rw [if_neg hexcluded]
      refine ⟨selected, rfl, iff_of_false hexcluded fun h => hexcluded ?_⟩
      have hall := h moment mem_cons_self
      rwa [hselected] at hall

variable (cr s proxy request) in
def quietMoments (clock : ℕ → Instant) (st : SelectionState) : ℕ → Moment
  | 0 => ⟨clock 0, s.endpointRuntime, st⟩
  | j + 1 =>
    ⟨clock (j + 1), s.endpointRuntime, (selectBackend cr s (buildRequestMeta cr request)
        (proxy.resolveTarget (buildRequestMeta cr request).headers) (clock j)
        (quietMoments clock st j).state).2⟩

variable {clock : ℕ → Instant} {way : RouteMatch} {backendRef : BackendRef}

theorem reselect_quietMoments (j : ℕ) (st : SelectionState) :
    reselect cr s proxy request (quietMoments cr s proxy request clock st j)
      = (selectBackend cr s (buildRequestMeta cr request)
          (proxy.resolveTarget (buildRequestMeta cr request).headers) (clock j)
          (quietMoments cr s proxy request clock st j).state).1 := by
  cases j <;> rfl

/-- **When an excluded endpoint is returned only if all there are are excluded**: exactly if, while
one is not, a turn of the search falls on such a one; and so whenever no endpoint occurs twice and
the tickets do not wrap. -/
theorem transport_retry_excluded_iff
    (hrobin : RoundRobin cr s (buildRequestMeta cr request)
      (proxy.resolveTarget (buildRequestMeta cr request).headers) (clock 0) way backendRef)
    (hhealth : ∀ j, s.SameHealth (clock j) (clock 0)) (st : SelectionState)
    (excluded : List TransportRetryExcludedEndpoint) :
    ∃ candidate selected, s.httpBackendCandidates [backendRef] (clock 0) = [candidate] ∧
      selectBackendWithTransportRetryExclusions cr s proxy request excluded
        (quietMoments cr s proxy request clock st) = some selected ∧
      ((.new selected.backendName selected.backend ∈ excluded →
          ∀ endpoint ∈ s.eligibleEndpoints candidate.backendName (clock 0) candidate.cluster,
            .new candidate.backendName endpoint ∈ excluded) ↔
        ((∃ endpoint ∈ s.eligibleEndpoints candidate.backendName (clock 0) candidate.cluster,
            .new candidate.backendName endpoint ∉ excluded) →
          ∃ j < max 8 (excluded.length + 1), ∃ endpoint,
            s.drawnEndpoint candidate (clock 0) (st.advance j).endpointCursor = some endpoint ∧
            .new candidate.backendName endpoint ∉ excluded)) ∧
      (.new selected.backendName selected.backend ∈ excluded ↔
        ∀ j < max 8 (excluded.length + 1), ∀ endpoint,
          s.drawnEndpoint candidate (clock 0) (st.advance j).endpointCursor = some endpoint →
          .new candidate.backendName endpoint ∈ excluded) ∧
      (((s.eligibleEndpoints candidate.backendName (clock 0) candidate.cluster).map
          (TransportRetryExcludedEndpoint.new candidate.backendName)).Nodup →
        st.endpointCursor.toNat + max 8 (excluded.length + 1) ≤ 2 ^ 64 →
        .new selected.backendName selected.backend ∈ excluded →
        ∀ endpoint ∈ s.eligibleEndpoints candidate.backendName (clock 0) candidate.cluster,
          .new candidate.backendName endpoint ∈ excluded) := by
  obtain ⟨candidate, hcandidate, hselect⟩ :=
    hrobin.exists_turns hhealth not_isGrpcRequest_buildRequestMeta st
  have hstate (j : ℕ) : (quietMoments cr s proxy request clock st j).state
      = callState cr s (buildRequestMeta cr request)
        (proxy.resolveTarget (buildRequestMeta cr request).headers) clock st j := by
    induction j with
    | zero => rfl
    | succ j ih =>
      obtain ⟨_, _, _, hselected, _⟩ := hselect j
      rw [quietMoments, ih, hselected]
  have hturn (j : ℕ) : ∃ endpoint selected,
      s.drawnEndpoint candidate (clock 0) (st.advance j).endpointCursor = some endpoint ∧
      reselect cr s proxy request (quietMoments cr s proxy request clock st j) = some selected ∧
      TransportRetryExcludedEndpoint.new selected.backendName selected.backend
        = .new candidate.backendName endpoint := by
    obtain ⟨endpoint, selected, hdrawn, hselected, hname⟩ := hselect j
    exact ⟨endpoint, selected, hdrawn, by rw [reselect_quietMoments, hstate, hselected], hname⟩
  generalize quietMoments cr s proxy request clock st = moments at *
  obtain ⟨selected, hselected, hiff⟩ : ∃ selected,
      selectBackendWithTransportRetryExclusions cr s proxy request excluded moments
        = some selected ∧
      (.new selected.backendName selected.backend ∈ excluded ↔
        ∀ j < max 8 (excluded.length + 1), (reselect cr s proxy request (moments j)).all
          (fun selected => .new selected.backendName selected.backend ∈ excluded) = true) := by
    rw [selectBackendWithTransportRetryExclusions]
    split_ifs with hnil
    · obtain ⟨-, first, -, hfirst, -⟩ := hturn 0
      refine ⟨first, hfirst, iff_of_false (by simp [hnil]) fun hall => ?_⟩
      have hall := hall 0 (by omega)
      simp [hfirst, hnil] at hall
    · have hselects : ∀ moment ∈ (List.range (max 8 (excluded.length + 1))).map moments,
          (reselect cr s proxy request moment).isSome = true := by
        intro moment hmoment
        obtain ⟨j, -, rfl⟩ := mem_map.mp hmoment
        obtain ⟨_, selected, _, hselected, _⟩ := hturn j
        rw [hselected, isSome_some]
      obtain ⟨selected, hselected, hiff⟩ := reselectLoop_excluded_iff
        (fun selected => .new selected.backendName selected.backend ∈ excluded) none hselects rfl
        (.inr (by simp))
      refine ⟨selected, hselected, ?_⟩
      simpa using hiff
  have hdrawn : .new selected.backendName selected.backend ∈ excluded ↔
      ∀ j < max 8 (excluded.length + 1), ∀ endpoint,
        s.drawnEndpoint candidate (clock 0) (st.advance j).endpointCursor = some endpoint →
        .new candidate.backendName endpoint ∈ excluded := by
    refine hiff.trans (forall₂_congr fun j _ => ?_)
    obtain ⟨endpoint, selected, hendpoint, hselected, hname⟩ := hturn j
    simp [hendpoint, hselected, hname]
  refine ⟨candidate, selected, hcandidate, hselected, ?_, hdrawn, ?_⟩
  · constructor
    · rintro hall ⟨endpoint, hmem, hfree⟩
      by_contra hnone
      exact hfree (hall (hdrawn.mpr fun j hj other hother => by_contra fun hnot =>
        hnone ⟨j, hj, other, hother, hnot⟩) endpoint hmem)
    · intro hfalls hin endpoint hmem
      by_contra hfree
      obtain ⟨j, hj, other, hother, hnot⟩ := hfalls ⟨endpoint, hmem, hfree⟩
      exact hnot (hdrawn.mp hin j hj other hother)
  intro hnodup hwrap hin endpoint hmem
  by_contra hfree
  obtain ⟨j, hj, other, hother, hnot⟩ :=
    exists_turn_not_banned hnodup hmem hfree st.endpointCursor.toNat
  refine hnot (hdrawn.mp hin j (by omega) other ?_)
  rw [drawnEndpoint, SelectionState.toNat_endpointCursor_advance (by omega)]
  exact hother

end

private def appRef : BackendRef := { «namespace» := "default", name := "app", port := 8080 }

variable (addresses : List String)

private def robinSnapshot : Snapshot :=
  { oneRuleSnapshot appRef "default" "app:8080" with
    backends :=
      [{ name := "app:8080", «namespace» := "default"
         endpoints := addresses.map fun address => ⟨address, 8080, true⟩ }] }

private def robinSelection : Option SelectedBackend :=
  selectBackendWithTransportRetryExclusions inertCrates (robinSnapshot addresses) {}
    { serverPort := 80 } [⟨"default/app:8080", "10.0.0.1", 8080⟩]
    (quietMoments inertCrates (robinSnapshot addresses) {} { serverPort := 80 } 0 {})

theorem transport_retry_excluded_iff_two : ∃ way,
    RoundRobin inertCrates (robinSnapshot ["10.0.0.1", "10.0.0.2"])
      (buildRequestMeta inertCrates { serverPort := 80 }) (fun _ => none) 0 way appRef ∧
    ∃ selected, robinSelection ["10.0.0.1", "10.0.0.2"] = some selected := by
  obtain ⟨way, hway, hrule⟩ : ∃ way, httpChoice inertCrates
      (robinSnapshot ["10.0.0.1", "10.0.0.2"]) (buildRequestMeta inertCrates { serverPort := 80 })
        = some way ∧ (way.rule.backendRefs, way.rule.sessionPersistence) = ([appRef], none) :=
    map_eq_some_iff.mp (by decide +kernel)
  obtain ⟨hrefs, hsession⟩ := Prod.mk.inj hrule
  have hrobin : RoundRobin inertCrates (robinSnapshot ["10.0.0.1", "10.0.0.2"])
      (buildRequestMeta inertCrates { serverPort := 80 }) (fun _ => none) 0 way appRef :=
    ⟨hway, by decide +kernel, hrefs, by rw [hrefs, hsession]; decide +kernel⟩
  obtain ⟨_, selected, _, hselected, _⟩ :=
    @transport_retry_excluded_iff _ _ {} { serverPort := 80 } 0 _ _ hrobin (fun _ _ _ => rfl) {} _
  exact ⟨way, hrobin, selected, hselected⟩

/-- **Eight copies of the excluded endpoint hide the available one after them.** -/
theorem copies_hide_available_endpoint :
    (robinSelection (List.replicate 8 "10.0.0.1" ++ ["10.0.0.2"])).map
        (fun selected => (selected.backendName, selected.backend.address, selected.backend.port))
      = some ("default/app:8080", "10.0.0.1", 8080) ∧
    ∀ cluster ∈ (robinSnapshot (List.replicate 8 "10.0.0.1" ++ ["10.0.0.2"])).backends,
      ⟨"10.0.0.2", 8080, true⟩ ∈ (robinSnapshot []).eligibleEndpoints "default/app:8080" 0
        cluster := by
  decide +kernel

end NantianGateway.Http
