import Mathlib.Algebra.Order.BigOperators.GroupWithZero.List
import NantianGateway.Ir.WeightedSplit

/-!
# Which endpoints a repeated request reaches

A resolution by weight draws a ticket for the reference and one for its endpoint, so from call to
call both advance by the same number `k`.  A reference of weight `w` with `c` endpoints is met with
all of them if and only if `k` is coprime to `c` and `gcd (k * c) W` is at most `w`.
-/

namespace NantianGateway

open Finset Snapshot List Option

/-! ## The length of a run -/

namespace BackendSelectionCandidate

def offered (s : Snapshot) (now : Instant) (candidate : BackendSelectionCandidate) : ℕ :=
  s.eligibleEndpointCount candidate.cluster candidate.backendName now

end BackendSelectionCandidate

namespace Snapshot

variable {s : Snapshot} {now : Instant} {refs : List BackendRef}
  {candidate : BackendSelectionCandidate}

theorem offered_eq (candidate : BackendSelectionCandidate) : candidate.offered s now
      = (s.eligibleEndpoints candidate.backendName now candidate.cluster).length :=
  count_availability candidate.cluster

theorem offered_pos (h : candidate ∈ s.httpBackendCandidates refs now) :
    0 < candidate.offered s now := by
  rw [offered_eq]
  exact length_pos_of_ne_nil (eligible_ne_nil_of_mem h)

def coverageRun (s : Snapshot) (refs : List BackendRef) (now : Instant) : ℕ :=
  s.availableWeight refs now
    * ((s.httpBackendCandidates refs now).map fun candidate => candidate.offered s now).prod

theorem mul_offered_le_coverageRun (h : candidate ∈ s.httpBackendCandidates refs now) :
    s.availableWeight refs now * candidate.offered s now ≤ s.coverageRun refs now := by
  have hpos : 0 < ((s.httpBackendCandidates refs now).map fun candidate =>
      candidate.offered s now).prod := by
    refine List.prod_pos fun n hn => ?_
    obtain ⟨other, hother, rfl⟩ := List.mem_map.mp hn
    exact offered_pos hother
  exact Nat.mul_le_mul_left _ (Nat.le_of_dvd hpos (dvd_prod (List.mem_map_of_mem h)))

/-- The target of a ticket falls into the window of a candidate, with no regard to wrapping. -/
def InWindow (s : Snapshot) (refs : List BackendRef) (now : Instant) (i : ℕ)
    (candidate : BackendSelectionCandidate) (ticket : ℕ) : Prop :=
  Weighted.total BackendSelectionCandidate.weight ((s.httpBackendCandidates refs now).take i)
      ≤ ticket * spreadWeightedStride (s.availableWeight refs now) % s.availableWeight refs now ∧
    ticket * spreadWeightedStride (s.availableWeight refs now) % s.availableWeight refs now
      < Weighted.total BackendSelectionCandidate.weight ((s.httpBackendCandidates refs now).take i)
        + candidate.weight

end Snapshot

/-! ## Counters that do not wrap -/

/-- During `n` calls that draw `step` tickets each, neither the counters nor the products of the
backend ticket with a stride below `weight` leave a machine word. -/
structure SelectionState.Unwrapped (step n weight : ℕ) (st : SelectionState) : Prop where
  backend : (st.backendCursor.toNat + step * n) * weight ≤ 2 ^ 64
  endpoint : st.endpointCursor.toNat + step * n ≤ 2 ^ 64

namespace SelectionState.Unwrapped

variable {step n weight drawn j : ℕ} {st : SelectionState}

theorem endpointCursor_eq (h : st.Unwrapped step n weight) (hdrawn : drawn < step) (hj : j < n) :
    (st.advance (drawn + step * j)).endpointCursor.toNat
      = st.endpointCursor.toNat + drawn + step * j := by
  have hlast := drawn_add_lt hdrawn hj
  rw [toNat_endpointCursor_advance ((Nat.add_lt_add_left hlast _).trans_le h.endpoint),
    Nat.add_assoc]

end SelectionState.Unwrapped

/-! ## What the calls take -/

section

variable (cr : Crates) (s : Snapshot) (request : RequestMeta)
  (sessionResolver : SessionPersistence → Option PersistentSessionTarget) (clock : ℕ → Instant)
  (st : SelectionState)

/-- The position, among the endpoints its reference offers, of the endpoint that a call takes. -/
def chosenEndpoint (j : ℕ) : Option ℕ :=
  (callWinner cr s request sessionResolver clock st j).bind fun won =>
    (s.drawnCandidate won.1.context.rule.backendRefs (clock j) won.2.backendCursor).map
      fun candidate => won.2.endpointCursor.toNat % candidate.offered s (clock j)

/-- Every endpoint of every available reference of a rule is taken in some call of the run. -/
def CoversEndpoints (refs : List BackendRef) : Prop :=
  ∀ i candidate p, (s.httpBackendCandidates refs (clock 0))[i]? = some candidate →
    p < candidate.offered s (clock 0) →
    ∃ j < s.coverageRun refs (clock 0), chosenRef cr s request sessionResolver clock st j = some i ∧
      chosenEndpoint cr s request sessionResolver clock st j = some p

variable {cr s request sessionResolver clock st}

theorem chosenEndpoint_eq {won : HttpCandidate} {drawnState : SelectionState} {j : ℕ}
    (hhealth : ∀ j, s.SameHealth (clock j) (clock 0))
    (hwon : callWinner cr s request sessionResolver clock st j = some (won, drawnState)) :
    chosenEndpoint cr s request sessionResolver clock st j
      = (s.drawnCandidate won.context.rule.backendRefs (clock 0) drawnState.backendCursor).map
          fun candidate => drawnState.endpointCursor.toNat % candidate.offered s (clock 0) := by
  have hoffered : ∀ candidate : BackendSelectionCandidate,
      candidate.offered s (clock j) = candidate.offered s (clock 0) := fun candidate =>
    congrArg EndpointSelectionAvailability.count
      ((hhealth j).alikeAt.availability_congr candidate.cluster candidate.backendName)
  rw [chosenEndpoint, hwon, bind_some, drawnCandidate, drawnCandidate,
    (hhealth j).alikeAt.httpCandidates_congr]
  simp only [hoffered]

theorem chosen_iff {won : HttpCandidate} {refs : List BackendRef} {drawn step n j i p : ℕ}
    {candidate : BackendSelectionCandidate} (hhealth : ∀ j, s.SameHealth (clock j) (clock 0))
    (hwon : callWinner cr s request sessionResolver clock st j
      = some (won, st.advance (drawn + step * j)))
    (hrefs : won.context.rule.backendRefs = refs)
    (hi : (s.httpBackendCandidates refs (clock 0))[i]? = some candidate)
    (hunwrapped : st.Unwrapped step n (s.availableWeight refs (clock 0))) (hdrawn : drawn < step)
    (hj : j < n) :
    chosenRef cr s request sessionResolver clock st j = some i ∧
        chosenEndpoint cr s request sessionResolver clock st j = some p ↔
      s.InWindow refs (clock 0) i candidate (st.backendCursor.toNat + drawn + step * j) ∧
      (st.endpointCursor.toNat + drawn + step * j) % candidate.offered s (clock 0) = p := by
  have hpos : 0 < s.availableWeight refs (clock 0) :=
    total_pos_of_ne_nil (ne_nil_of_mem (mem_of_getElem? hi))
  obtain ⟨hticket, hproduct⟩ := ticket_of_unwrapped hpos hdrawn hunwrapped.backend hj
  rw [chosenRef_eq hhealth hwon, chosenEndpoint_eq hhealth hwon, hrefs, drawnCandidate_eq, InWindow,
    ← hticket, ← spreadTarget_eq hpos (mul_spreadStride_lt hpos hproduct),
    ← drawnPosition_eq_some_iff hi, ← hunwrapped.endpointCursor_eq hdrawn hj]
  refine and_congr_right fun hposition => ?_
  rw [hposition, bind_some, hi, map_some, Option.some.injEq]

/-! ## Coverage -/

/-- The tickets of a step can meet a candidate with each of its endpoints. -/
structure BackendSelectionCandidate.Reachable (s : Snapshot) (now : Instant) (step weight : ℕ)
    (candidate : BackendSelectionCandidate) : Prop where
  coprime : step.Coprime (candidate.offered s now)
  gcd_le : (step * candidate.offered s now).gcd weight ≤ candidate.weight

variable {way : RouteMatch} (hhealth : ∀ j, s.SameHealth (clock j) (clock 0))
  (hway : httpChoice cr s request = some way)
  (hweight : s.fixedResolution way.rule.backendRefs way.rule.sessionPersistence request
    sessionResolver (clock 0) = none)

include hhealth hway hweight

theorem exists_chosen (st : SelectionState) (j : ℕ) :
    ∃ i p candidate endpoint route, chosenRef cr s request sessionResolver clock st j = some i ∧
      chosenEndpoint cr s request sessionResolver clock st j = some p ∧
      (s.httpBackendCandidates way.rule.backendRefs (clock 0))[i]? = some candidate ∧
      (s.eligibleEndpoints candidate.backendName (clock 0) candidate.cluster)[p]? = some endpoint ∧
      Takes cr s request sessionResolver clock st way j candidate endpoint route := by
  obtain ⟨drawn, -, htakes⟩ := exists_takes hhealth hway hweight rfl
  obtain ⟨won, hwon, hrule, candidate, endpoint, route, hcandidate, hendpoint, htaken⟩ :=
    htakes st j
  have hposition := hcandidate
  rw [drawnCandidate_eq] at hposition
  obtain ⟨i, hi, hat⟩ := bind_eq_some_iff.mp hposition
  refine ⟨i, _, candidate, endpoint, route, ?_, ?_, hat, hendpoint, htaken⟩
  · rw [chosenRef_eq hhealth hwon, hrule, hi]
  · rw [chosenEndpoint_eq hhealth hwon, hrule, hcandidate, map_some, offered_eq]

variable {k W run : ℕ} (hk : ticketsPerCall cr s request sessionResolver (clock 0) = k)
  (hW : s.availableWeight way.rule.backendRefs (clock 0) = W)
  (hrun : s.coverageRun way.rule.backendRefs (clock 0) = run)

include hk hW hrun

theorem coversEndpoints_of_reachable
    (hreachable : ∀ candidate ∈ s.httpBackendCandidates way.rule.backendRefs (clock 0),
      candidate.Reachable s (clock 0) k W)
    (hunwrapped : st.Unwrapped k run W) :
    CoversEndpoints cr s request sessionResolver clock st way.rule.backendRefs := by
  obtain ⟨drawn, hdrawn, htakes⟩ := exists_takes hhealth hway hweight hk
  subst hW hrun
  intro i candidate p hi hp
  have hmem := mem_of_getElem? hi
  have hpos := total_pos_of_ne_nil (ne_nil_of_mem hmem)
  obtain ⟨hcoprime, hgcd⟩ := hreachable candidate hmem
  obtain ⟨j, hj, hwindow, hresidue⟩ := Residues.exists_common_step hpos
    (offered_pos hmem) (spreadStride_spec hpos).1 hcoprime
    (Weighted.total_take_add_le hi) hgcd (st.backendCursor.toNat + drawn)
    (st.endpointCursor.toNat + drawn) p
  have hrun := hj.trans_le (mul_offered_le_coverageRun hmem)
  obtain ⟨won, hwon, hrule, -⟩ := htakes st j
  refine ⟨j, hrun, (chosen_iff hhealth hwon (congrArg HttpRule.backendRefs hrule) hi hunwrapped
    hdrawn hrun).mpr ⟨hwindow, ?_⟩⟩
  rw [hresidue, Nat.mod_eq_of_lt hp]

theorem reachable_of_coversEndpoints
    (hroom : (W + k * run) * W ≤ 2 ^ 64)
    (hcovers : ∀ st : SelectionState, st.Unwrapped k run W →
      CoversEndpoints cr s request sessionResolver clock st way.rule.backendRefs) :
    ∀ candidate ∈ s.httpBackendCandidates way.rule.backendRefs (clock 0),
      candidate.Reachable s (clock 0) k W := by
  obtain ⟨drawn, hdrawn, htakes⟩ := exists_takes hhealth hway hweight hk
  intro candidate hmem
  obtain ⟨i, hi⟩ := mem_iff_getElem?.mp hmem
  have hpos : 0 < W := hW ▸ total_pos_of_ne_nil (ne_nil_of_mem hmem)
  have hoffered := offered_pos hmem
  -- the calls that start from the first endpoint ticket
  have hst : ∀ start < W, ∀ p < candidate.offered s (clock 0), ∃ j,
      s.InWindow way.rule.backendRefs (clock 0) i candidate (start + drawn + k * j) ∧
      (drawn + k * j) % candidate.offered s (clock 0) = p := by
    intro start hlt p hp
    have hcursor : (UInt64.ofNat start).toNat = start :=
      UInt64.toNat_ofNat_of_lt' (hlt.trans_le ((Nat.le_mul_of_pos_left _
        (Nat.add_pos_left hpos _)).trans hroom))
    have hunwrapped : ({ backendCursor := UInt64.ofNat start } :
        SelectionState).Unwrapped k run W := by
      refine ⟨?_, ?_⟩
      · rw [hcursor]
        exact (Nat.mul_le_mul_right _ (Nat.add_le_add_right hlt.le _)).trans hroom
      · exact ((Nat.add_le_add_right (Nat.zero_le _) _).trans
          (Nat.le_mul_of_pos_right _ hpos)).trans hroom
    obtain ⟨j, hj, hchosen⟩ := hcovers _ hunwrapped i candidate p hi hp
    obtain ⟨won, hwon, hrule, -⟩ := htakes { backendCursor := UInt64.ofNat start } j
    subst hW hrun
    obtain ⟨hwindow, hresidue⟩ := (chosen_iff hhealth hwon (congrArg HttpRule.backendRefs hrule) hi
      hunwrapped hdrawn hj).mp hchosen
    rw [hcursor] at hwindow
    refine ⟨j, hwindow, ?_⟩
    rw [← hresidue]
    exact congrArg (fun n => (n + _) % _) (Nat.zero_add drawn).symm
  have hcoprime : k.Coprime (candidate.offered s (clock 0)) := by
    obtain ⟨j, -, hj⟩ := hst 0 hpos ((drawn + 1) % candidate.offered s (clock 0))
      (Nat.mod_lt _ hoffered)
    exact Residues.coprime_of_step_modEq_succ hj
  subst hW
  exact ⟨hcoprime, Residues.gcd_le_of_common_steps hpos (spreadStride_spec hpos).1 hcoprime
    fun start hlt => hst start hlt (drawn % candidate.offered s (clock 0)) (Nat.mod_lt _ hoffered)⟩

omit hk hW hrun

/-- **A repeated request reaches every endpoint if and only if the tickets are out of step.** If
every available reference of the winning rule is reachable, every endpoint it offers is taken in a
run of calls; otherwise there are tickets from which one is never taken. -/
theorem endpoint_coverage_iff :
    ((∀ candidate ∈ s.httpBackendCandidates way.rule.backendRefs (clock 0),
        candidate.Reachable s (clock 0) (ticketsPerCall cr s request sessionResolver (clock 0))
          (s.availableWeight way.rule.backendRefs (clock 0))) →
      ∀ st : SelectionState, st.Unwrapped (ticketsPerCall cr s request sessionResolver (clock 0))
          (s.coverageRun way.rule.backendRefs (clock 0))
          (s.availableWeight way.rule.backendRefs (clock 0)) →
        ∀ candidate ∈ s.httpBackendCandidates way.rule.backendRefs (clock 0),
          ∀ endpoint ∈ s.eligibleEndpoints candidate.backendName (clock 0) candidate.cluster,
            ∃ j < s.coverageRun way.rule.backendRefs (clock 0), ∃ route,
              Takes cr s request sessionResolver clock st way j candidate endpoint route) ∧
      ((s.availableWeight way.rule.backendRefs (clock 0)
            + ticketsPerCall cr s request sessionResolver (clock 0)
              * s.coverageRun way.rule.backendRefs (clock 0))
          * s.availableWeight way.rule.backendRefs (clock 0) ≤ 2 ^ 64 →
        ((∀ st : SelectionState,
            st.Unwrapped (ticketsPerCall cr s request sessionResolver (clock 0))
              (s.coverageRun way.rule.backendRefs (clock 0))
              (s.availableWeight way.rule.backendRefs (clock 0)) →
            CoversEndpoints cr s request sessionResolver clock st way.rule.backendRefs) ↔
          ∀ candidate ∈ s.httpBackendCandidates way.rule.backendRefs (clock 0),
            candidate.Reachable s (clock 0) (ticketsPerCall cr s request sessionResolver (clock 0))
              (s.availableWeight way.rule.backendRefs (clock 0)))) ∧
      ∀ st j, ∃ i p candidate endpoint route,
        chosenRef cr s request sessionResolver clock st j = some i ∧
        chosenEndpoint cr s request sessionResolver clock st j = some p ∧
        (s.httpBackendCandidates way.rule.backendRefs (clock 0))[i]? = some candidate ∧
        (s.eligibleEndpoints candidate.backendName (clock 0) candidate.cluster)[p]?
          = some endpoint ∧
        Takes cr s request sessionResolver clock st way j candidate endpoint route := by
  refine ⟨fun hreachable st hunwrapped candidate hmem endpoint hendpoint => ?_, fun hroom => ?_,
    exists_chosen hhealth hway hweight⟩
  · obtain ⟨i, hi⟩ := mem_iff_getElem?.mp hmem
    obtain ⟨p, hp⟩ := mem_iff_getElem?.mp hendpoint
    have hlt : p < candidate.offered s (clock 0) := by
      rw [offered_eq]
      exact (List.getElem?_eq_some_iff.mp hp).1
    obtain ⟨j, hj, hchosen, hchosenEndpoint⟩ :=
      coversEndpoints_of_reachable hhealth hway hweight rfl rfl rfl hreachable hunwrapped i
        candidate p hi hlt
    obtain ⟨i', p', candidate', endpoint', route, hi', hp', hat, hpoint, htakes⟩ :=
      exists_chosen hhealth hway hweight st j
    obtain rfl := Option.some.inj (hchosen.symm.trans hi')
    obtain rfl := Option.some.inj (hchosenEndpoint.symm.trans hp')
    obtain rfl := Option.some.inj (hi.symm.trans hat)
    obtain rfl := Option.some.inj (hp.symm.trans hpoint)
    exact ⟨j, hj, route, htakes⟩
  · exact ⟨reachable_of_coversEndpoints hhealth hway hweight rfl rfl rfl hroom,
      fun hreachable st hunwrapped =>
        coversEndpoints_of_reachable hhealth hway hweight rfl rfl rfl hreachable hunwrapped⟩

end

private def coveredCluster (name : String) (addresses : List String) : BackendCluster :=
  { name := name ++ ":8080"
    «namespace» := "default"
    endpoints := addresses.map fun address =>
      { address := address, port := 8080, healthy := true } }

private def coveredSnapshot (blue green : List String) : Snapshot :=
  { httpRoutes :=
      [{ name := "web"
         «namespace» := "default"
         rules :=
          [{ backendRefs :=
              [{ «namespace» := "default", name := "blue", port := 8080, weight := 1 },
               { «namespace» := "default", name := "green", port := 8080, weight := 1 }] }] }]
    backends := [coveredCluster "blue" blue, coveredCluster "green" green] }

private def twoEach : Snapshot := coveredSnapshot ["10.0.0.1", "10.0.0.2"] ["10.0.1.1", "10.0.1.2"]

/-- **Every cluster is met with one of its two endpoints only.** -/
theorem lockstep_starves_endpoints : (httpChoice inertCrates twoEach {}).map (fun way =>
        twoEach.coverageRun way.rule.backendRefs 0) = some 8 ∧
      ((List.range 8).map fun j =>
          (call inertCrates twoEach {} (fun _ => none) (fun _ => 0) {} j).bind
            fun route => route.backend.map fun endpoint => endpoint.address)
        = [some "10.0.0.1", some "10.0.1.2", some "10.0.0.1", some "10.0.1.2",
            some "10.0.0.1", some "10.0.1.2", some "10.0.0.1", some "10.0.1.2"] := by
  decide +kernel

private def threeEach : Snapshot :=
  coveredSnapshot ["10.0.0.1", "10.0.0.2", "10.0.0.3"] ["10.0.1.1", "10.0.1.2", "10.0.1.3"]

theorem lockstep_reaches_threeEach :
    ∃ way, httpChoice inertCrates threeEach {} = some way ∧
      ∀ candidate ∈ threeEach.httpBackendCandidates way.rule.backendRefs 0,
        ∀ endpoint ∈ threeEach.eligibleEndpoints candidate.backendName 0 candidate.cluster,
          ∃ j < threeEach.coverageRun way.rule.backendRefs 0, ∃ route,
            Takes inertCrates threeEach {} (fun _ => none) (fun _ => 0) {} way j candidate endpoint
              route := by
  have hfacts : (httpChoice inertCrates threeEach {}).map (fun way =>
      (((threeEach.fixedResolution way.rule.backendRefs way.rule.sessionPersistence {}
          (fun _ => none) 0).isNone,
        ticketsPerCall inertCrates threeEach {} (fun _ => none) 0),
        threeEach.availableWeight way.rule.backendRefs 0,
        threeEach.coverageRun way.rule.backendRefs 0,
        (threeEach.httpBackendCandidates way.rule.backendRefs 0).map fun candidate =>
          (candidate.offered threeEach 0, candidate.weight)))
      = some ((true, 1), 2, 18, [(3, 1), (3, 1)]) := by
    decide +kernel
  obtain ⟨way, hway, hfacts⟩ := map_eq_some_iff.mp hfacts
  simp only [Prod.mk.injEq] at hfacts
  obtain ⟨⟨hweight, htick⟩, htotal, hrun, hcandidates⟩ := hfacts
  obtain ⟨hcovers, -⟩ := @endpoint_coverage_iff inertCrates threeEach {} (fun _ => none)
    (fun _ => 0) way (fun _ _ _ => rfl) hway (isNone_iff_eq_none.mp hweight)
  refine ⟨way, hway, hcovers (fun candidate hmem => ?_) {} ⟨?_, ?_⟩⟩
  · have hpair := List.mem_map_of_mem (f := fun candidate : BackendSelectionCandidate =>
      (candidate.offered threeEach 0, candidate.weight)) hmem
    rw [hcandidates] at hpair
    obtain ⟨hoffered, hone⟩ : candidate.offered threeEach 0 = 3 ∧ candidate.weight = 1 := by
      simpa using hpair
    refine ⟨?_, ?_⟩
    · rw [htick, hoffered]
      decide
    · rw [htick, htotal, hoffered, hone]
      decide
  · rw [htick, htotal, hrun]
    decide
  · rw [htick, hrun]
    decide

end NantianGateway
