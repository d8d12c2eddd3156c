import NantianGateway.Ir.RepeatedCalls
import NantianGateway.Lib.Residues

/-!
# How requests are split over weighted backends

A ticket is turned into a target by a multiplication modulo the total weight `W`, with a stride
coprime to `W`.  Every rule that accepts the request takes a ticket, so the winner sees every `k`-th
one, and **the split is exact if and only if `gcd k W` divides every weight**.
-/

namespace NantianGateway

open Finset

/-! ## The stride -/

theorem gcdLoop_eq {fuel left right : ℕ} (h : right < fuel) :
    gcdLoop fuel left right = left.gcd right := by
  induction fuel generalizing left right with
  | zero => exact absurd h (Nat.not_lt_zero _)
  | succ fuel ih =>
    rw [gcdLoop]
    split
    next hright => rw [hright, Nat.gcd_zero_right]
    next hright =>
      have hlt : left % right < fuel :=
        (Nat.mod_lt left (Nat.pos_of_ne_zero hright)).trans_le (Nat.lt_succ_iff.mp h)
      rw [ih hlt, Nat.gcd_comm left right, Nat.gcd_rec right left, Nat.gcd_comm]

theorem gcd_eq (left right : ℕ) : gcd left right = left.gcd right :=
  gcdLoop_eq (Nat.lt_succ_self right)

variable {totalWeight : ℕ}

theorem spreadStride_spec (h : 0 < totalWeight) :
    (spreadWeightedStride totalWeight).Coprime totalWeight ∧
      spreadWeightedStride totalWeight ≤ totalWeight := by
  rw [spreadWeightedStride]
  split
  · exact ⟨Nat.coprime_one_left _, h⟩
  next =>
    dsimp only
    have hideal : ∀ n, max 1 (min n (totalWeight - 1)) ≤ totalWeight := fun n =>
      max_le h ((min_le_right _ _).trans (Nat.sub_le _ _))
    specialize hideal ((totalWeight * 618033988749895 + 1000000000000000 / 2) / 1000000000000000)
    generalize max 1 _ = ideal at hideal ⊢
    cases hfound : (List.range totalWeight).findSome? _ with
    | none => exact ⟨Nat.coprime_one_left _, h⟩
    | some stride =>
      obtain ⟨delta, -, hdelta⟩ := List.exists_of_findSome?_eq_some hfound
      rw [Option.getD_some]
      split_ifs at hdelta with hbelow habove
      · obtain rfl := Option.some.inj hdelta
        exact ⟨(gcd_eq _ _).symm.trans hbelow.2, (Nat.sub_le _ _).trans hideal⟩
      · obtain rfl := Option.some.inj hdelta
        exact ⟨(gcd_eq _ _).symm.trans habove.2, habove.1.le⟩

theorem spreadStride_mem (h : 2 ≤ totalWeight) :
    spreadWeightedStride totalWeight ∈ Icc 1 (totalWeight - 1) := by
  obtain ⟨hcoprime, hle⟩ := spreadStride_spec (Nat.zero_lt_of_lt h)
  have hzero : spreadWeightedStride totalWeight ≠ 0 := by
    intro hzero
    rw [hzero, Nat.coprime_zero_left] at hcoprime
    omega
  have hself : spreadWeightedStride totalWeight ≠ totalWeight := by
    intro hself
    rw [hself, Nat.coprime_self] at hcoprime
    omega
  rw [mem_Icc]
  omega

theorem spreadTarget_eq {ticket : UInt64} (hpos : 0 < totalWeight)
    (h : ticket.toNat * spreadWeightedStride totalWeight < 2 ^ 64) :
    spreadWeightedTarget ticket totalWeight
      = ticket.toNat * spreadWeightedStride totalWeight % totalWeight := by
  rw [spreadWeightedTarget]
  split
  next hsmall =>
    obtain rfl : totalWeight = 1 := Nat.le_antisymm hsmall hpos
    rw [Nat.mod_one]
  next => rw [Nat.mod_eq_of_lt h]

theorem mul_spreadStride_lt {ticket totalWeight : ℕ} (hpos : 0 < totalWeight)
    (h : ticket * totalWeight < 2 ^ 64) : ticket * spreadWeightedStride totalWeight < 2 ^ 64 :=
  (Nat.mul_le_mul_left _ (spreadStride_spec hpos).2).trans_lt h

/-- **Consecutive tickets are spread evenly.**  The stride is a unit modulo the total weight `W`, so
`W` consecutive tickets have every target once, as long as no product wraps. -/
theorem spread_weighted_even {W : ℕ} (hW : 2 ≤ W) :
    spreadWeightedStride W ∈ Icc 1 (W - 1) ∧ (spreadWeightedStride W).Coprime W ∧
      ∀ t, (t + W - 1) * spreadWeightedStride W < 2 ^ 64 →
        ((List.range W).map fun j => spreadWeightedTarget (UInt64.ofNat (t + j)) W).Perm
            (List.range W) ∧
          ∀ (α : Type) (weight : α → ℕ) (refs : List α), Weighted.total weight refs = W →
            ∀ i backendRef, refs[i]? = some backendRef →
              #{j ∈ range W | Weighted.pickPosition weight
                  (spreadWeightedTarget (UInt64.ofNat (t + j)) W) 0 refs = some i}
                = weight backendRef := by
  have hpos : 0 < W := Nat.zero_lt_of_lt hW
  obtain ⟨hlow, hhigh⟩ := mem_Icc.mp (spreadStride_mem hW)
  obtain ⟨hcoprime, -⟩ := spreadStride_spec hpos
  refine ⟨spreadStride_mem hW, hcoprime, fun t hwrap => ?_⟩
  -- the targets are a progression whose step is the stride
  have htarget : ∀ j < W, spreadWeightedTarget (UInt64.ofNat (t + j)) W
      = (t * spreadWeightedStride W + spreadWeightedStride W * j) % W := by
    intro j hj
    have hle : t + j ≤ t + W - 1 := by omega
    have hproduct := (Nat.mul_le_mul_right _ hle).trans_lt hwrap
    have hticket : (UInt64.ofNat (t + j)).toNat = t + j :=
      UInt64.toNat_ofNat_of_lt' ((Nat.le_mul_of_pos_right _ hlow).trans_lt hproduct)
    rw [spreadTarget_eq hpos (by rwa [hticket]), hticket, Nat.add_mul, Nat.mul_comm j]
  constructor
  · have hnodup : ((List.range W).map fun j =>
        spreadWeightedTarget (UInt64.ofNat (t + j)) W).Nodup := by
      refine List.Nodup.map_on (fun i hi j hj h => ?_) List.nodup_range
      rw [List.mem_range] at hi hj
      rw [htarget i hi, htarget j hj] at h
      have hstep := (Residues.step_modEq_step_iff hpos).mp h
      rw [hcoprime, Nat.div_one, Nat.ModEq, Nat.mod_eq_of_lt hi, Nat.mod_eq_of_lt hj] at hstep
      exact hstep
    refine (List.subperm_of_subset hnodup fun x hx => ?_).perm_of_length_le ?_
    · obtain ⟨j, hj, rfl⟩ := List.mem_map.mp hx
      rw [htarget j (List.mem_range.mp hj), List.mem_range]
      exact Nat.mod_lt _ hpos
    · rw [List.length_map]
  · rintro α weight refs rfl i backendRef hi
    have hshare := (@Residues.card_visits_eq_iff _
      (spreadWeightedStride (Weighted.total weight refs))
      (t * spreadWeightedStride (Weighted.total weight refs)) _ _ hpos
      (Weighted.total_take_add_le hi)).mpr (by rw [hcoprime]; exact one_dvd _)
    rw [← hshare]
    refine congrArg card (filter_congr fun j hj => ?_)
    rw [Weighted.pickPosition_eq_some_iff (Nat.zero_le _), hi, htarget j (mem_range.mp hj)]
    simp only [Option.some.injEq, exists_eq_left', Nat.zero_add]

theorem spread_weighted_even_three :
    ((List.range 3).map fun j => spreadWeightedTarget (UInt64.ofNat (7 + j)) 3).Perm
      (List.range 3) :=
  ((spread_weighted_even (by decide : 2 ≤ 3)).2.2 7 (by decide)).1

namespace SelectionState

theorem toNat_backendCursor_advance {st : SelectionState} {n : ℕ}
    (h : st.backendCursor.toNat + n < 2 ^ 64) :
    (st.advance n).backendCursor.toNat = st.backendCursor.toNat + n := by
  rw [advance, UInt64.toNat_add, UInt64.toNat_ofNat', Nat.add_mod_mod, Nat.mod_eq_of_lt h]

theorem toNat_endpointCursor_advance {st : SelectionState} {n : ℕ}
    (h : st.endpointCursor.toNat + n < 2 ^ 64) :
    (st.advance n).endpointCursor.toNat = st.endpointCursor.toNat + n := by
  rw [advance, UInt64.toNat_add, UInt64.toNat_ofNat', Nat.add_mod_mod, Nat.mod_eq_of_lt h]

end SelectionState

/-! ## The reference a ticket points at -/

namespace Snapshot

variable (s : Snapshot) (refs : List BackendRef) (now : Instant)

/-- The total weight of the available references. -/
def availableWeight : ℕ :=
  Weighted.total BackendSelectionCandidate.weight (s.httpBackendCandidates refs now)

/-- The position, among the available references, of the one that a backend ticket points at. -/
def drawnPosition (ticket : UInt64) : Option ℕ :=
  Weighted.pickPosition BackendSelectionCandidate.weight
    (spreadWeightedTarget ticket (s.availableWeight refs now)) 0 (s.httpBackendCandidates refs now)

variable {s refs now}

theorem drawnCandidate_eq (ticket : UInt64) : s.drawnCandidate refs now ticket
      = (s.drawnPosition refs now ticket).bind ((s.httpBackendCandidates refs now)[·]?) :=
  Weighted.pickWeighted_eq_bind _ _ _

variable {candidate : BackendSelectionCandidate}

theorem drawnPosition_eq_some_iff {ticket : UInt64} {i : ℕ}
    (hi : (s.httpBackendCandidates refs now)[i]? = some candidate) :
    s.drawnPosition refs now ticket = some i ↔
      Weighted.total BackendSelectionCandidate.weight ((s.httpBackendCandidates refs now).take i)
          ≤ spreadWeightedTarget ticket (s.availableWeight refs now) ∧
        spreadWeightedTarget ticket (s.availableWeight refs now)
          < Weighted.total BackendSelectionCandidate.weight
              ((s.httpBackendCandidates refs now).take i) + candidate.weight := by
  rw [drawnPosition, Weighted.pickPosition_eq_some_iff (Nat.zero_le _), hi]
  simp only [Option.some.injEq, exists_eq_left', Nat.zero_add]

theorem card_drawnPosition_eq_iff {start step i : ℕ}
    {ticket : ℕ → UInt64} (hi : (s.httpBackendCandidates refs now)[i]? = some candidate)
    (hticket : ∀ j < s.availableWeight refs now, (ticket j).toNat = start + step * j ∧
      (ticket j).toNat * s.availableWeight refs now < 2 ^ 64) :
    #{j ∈ range (s.availableWeight refs now) | s.drawnPosition refs now (ticket j) = some i}
        = candidate.weight ↔
      step.gcd (s.availableWeight refs now) ∣ candidate.weight := by
  have hpos : 0 < s.availableWeight refs now :=
    total_pos_of_ne_nil (List.ne_nil_of_mem (List.mem_of_getElem? hi))
  obtain ⟨hcoprime, -⟩ := spreadStride_spec hpos
  rw [← hcoprime.gcd_mul_right_cancel step, ← @Residues.card_visits_eq_iff _ _
    (start * spreadWeightedStride (s.availableWeight refs now)) _ _ hpos
    (Weighted.total_take_add_le hi)]
  refine iff_of_eq (congrArg (#· = _) (filter_congr fun j hj => ?_))
  obtain ⟨hvalue, hwrap⟩ := hticket j (mem_range.mp hj)
  rw [drawnPosition_eq_some_iff hi, spreadTarget_eq hpos (mul_spreadStride_lt hpos hwrap), hvalue,
    Nat.add_mul, Nat.mul_right_comm]

end Snapshot

theorem drawn_add_lt {drawn step n j : ℕ} (hdrawn : drawn < step) (hj : j < n) :
    drawn + step * j < step * n := by
  calc drawn + step * j < step + step * j := Nat.add_lt_add_right hdrawn _
    _ = step * (j + 1) := by rw [Nat.mul_succ, Nat.add_comm]
    _ ≤ step * n := Nat.mul_le_mul_left step hj

theorem ticket_of_unwrapped {st : SelectionState} {drawn step n weight : ℕ} (hpos : 0 < weight)
    (hdrawn : drawn < step) (hwrap : (st.backendCursor.toNat + step * n) * weight ≤ 2 ^ 64) {j : ℕ}
    (hj : j < n) :
    (st.advance (drawn + step * j)).backendCursor.toNat
        = st.backendCursor.toNat + drawn + step * j ∧
      (st.advance (drawn + step * j)).backendCursor.toNat * weight < 2 ^ 64 := by
  have hproduct : (st.backendCursor.toNat + (drawn + step * j)) * weight < 2 ^ 64 :=
    (Nat.mul_lt_mul_of_pos_right (Nat.add_lt_add_left (drawn_add_lt hdrawn hj) _)
      hpos).trans_le hwrap
  have hcursor := SelectionState.toNat_backendCursor_advance
    ((Nat.le_mul_of_pos_right _ hpos).trans_lt hproduct)
  exact ⟨hcursor.trans (Nat.add_assoc _ _ _).symm, by rwa [hcursor]⟩

/-! ## What the calls take -/

section

variable (cr : Crates) (s : Snapshot) (request : RequestMeta)
  (sessionResolver : SessionPersistence → Option PersistentSessionTarget) (clock : ℕ → Instant)
  (st : SelectionState)

/-- The position, among the available references of the winning rule, of the one that a call
takes. -/
def chosenRef (j : ℕ) : Option ℕ :=
  (callWinner cr s request sessionResolver clock st j).bind fun won =>
    s.drawnPosition won.1.context.rule.backendRefs (clock j) won.2.backendCursor

/-- A call serves the request by the chosen rule, and takes an endpoint of a candidate. -/
structure Takes (way : RouteMatch) (j : ℕ) (candidate : BackendSelectionCandidate)
    (endpoint : BackendEndpoint) (route : SelectedHttpRoute) : Prop where
  call_eq : call cr s request sessionResolver clock st j = some route
  rule : route.ruleRef = way.ruleRef
  backendName : route.backendName = some candidate.backendName
  backend : route.backend = some endpoint

variable {cr s request sessionResolver clock st}

theorem chosenRef_eq {won : HttpCandidate} {drawnState : SelectionState} {j : ℕ}
    (hhealth : ∀ j, s.SameHealth (clock j) (clock 0))
    (hwon : callWinner cr s request sessionResolver clock st j = some (won, drawnState)) :
    chosenRef cr s request sessionResolver clock st j
      = s.drawnPosition won.context.rule.backendRefs (clock 0) drawnState.backendCursor := by
  rw [chosenRef, hwon, Option.bind_some, Snapshot.drawnPosition, Snapshot.drawnPosition,
    Snapshot.availableWeight, Snapshot.availableWeight, (hhealth j).alikeAt.httpCandidates_congr]

variable {way : RouteMatch} (hhealth : ∀ j, s.SameHealth (clock j) (clock 0))
  (hway : httpChoice cr s request = some way)
  (hweight : s.fixedResolution way.rule.backendRefs way.rule.sessionPersistence request
    sessionResolver (clock 0) = none)

include hhealth hway hweight

/-- **The tickets of the calls.**  In every call the winning rule draws a reference and one of
its endpoints with tickets that advance by the same step. -/
theorem exists_takes {k : ℕ} (hk : ticketsPerCall cr s request sessionResolver (clock 0) = k) :
    ∃ drawn < k, ∀ st j, ∃ won, callWinner cr s request sessionResolver clock st j
        = some (won, st.advance (drawn + k * j)) ∧
      won.context.rule = way.rule ∧
      ∃ candidate endpoint route,
        s.drawnCandidate way.rule.backendRefs (clock 0) (st.advance (drawn + k * j)).backendCursor
          = some candidate ∧
        s.drawnEndpoint candidate (clock 0) (st.advance (drawn + k * j)).endpointCursor
          = some endpoint ∧
        Takes cr s request sessionResolver clock st way j candidate endpoint route := by
  subst hk
  obtain ⟨drawn, hdrawn, hwinner⟩ := exists_callWinner hhealth hway hweight
  refine ⟨drawn, hdrawn, fun st j => ?_⟩
  obtain ⟨won, hwon, hwonWay, hresolution⟩ := hwinner st j
  refine ⟨won, hwon, congrArg RouteMatch.rule hwonWay, ?_⟩
  generalize st.advance (drawn + _ * j) = drawnState at hwon hresolution ⊢
  obtain ⟨candidate, -, hcandidate, endpoint, -, hendpoint, hspec⟩ :=
    Snapshot.resolveWeighted_spec (Snapshot.candidates_ne_nil s _ _ _ _ _ hweight)
      way.rule.sessionPersistence drawnState
  rw [hspec] at hresolution
  refine ⟨candidate, endpoint, won.toSelected s, hcandidate, hendpoint, ?_, ?_, ?_, ?_⟩
  · rw [call_eq, hwon]
    rfl
  · exact congrArg RouteMatch.ruleRef hwonWay
  · rw [HttpCandidate.toSelected, hresolution]
    rfl
  · rw [HttpCandidate.toSelected, hresolution]
    rfl

/-- **The split is exact if and only if the step of the tickets allows it**: if `gcd k W` divides
every weight, where `k` is the number of rules that draw tickets for the request. -/
theorem weighted_split_iff
    (hwrap : (st.backendCursor.toNat + ticketsPerCall cr s request sessionResolver (clock 0)
        * s.availableWeight way.rule.backendRefs (clock 0))
      * s.availableWeight way.rule.backendRefs (clock 0) ≤ 2 ^ 64) :
    (∀ j, ∃ i candidate endpoint route, chosenRef cr s request sessionResolver clock st j = some i ∧
        (s.httpBackendCandidates way.rule.backendRefs (clock 0))[i]? = some candidate ∧
        Takes cr s request sessionResolver clock st way j candidate endpoint route) ∧
      ((∀ i candidate,
          (s.httpBackendCandidates way.rule.backendRefs (clock 0))[i]? = some candidate →
          #{j ∈ range (s.availableWeight way.rule.backendRefs (clock 0)) |
            chosenRef cr s request sessionResolver clock st j = some i} = candidate.weight) ↔
        ∀ candidate ∈ s.httpBackendCandidates way.rule.backendRefs (clock 0),
          (ticketsPerCall cr s request sessionResolver (clock 0)).gcd
            (s.availableWeight way.rule.backendRefs (clock 0)) ∣ candidate.weight) := by
  set k := ticketsPerCall cr s request sessionResolver (clock 0) with hk
  set W := s.availableWeight way.rule.backendRefs (clock 0)
  obtain ⟨drawn, hdrawn, htakes⟩ := exists_takes hhealth hway hweight hk.symm
  have hpos : 0 < W :=
    Snapshot.total_pos_of_ne_nil (Snapshot.candidates_ne_nil s _ _ _ _ _ hweight)
  have hchosen : ∀ j, chosenRef cr s request sessionResolver clock st j
      = s.drawnPosition way.rule.backendRefs (clock 0)
        (st.advance (drawn + k * j)).backendCursor := by
    intro j
    obtain ⟨won, hwon, hrule, -⟩ := htakes st j
    rw [chosenRef_eq hhealth hwon, hrule]
  constructor
  · intro j
    obtain ⟨won, -, -, candidate, endpoint, route, hcandidate, -, htaken⟩ := htakes st j
    rw [Snapshot.drawnCandidate_eq, ← hchosen j] at hcandidate
    obtain ⟨i, hi, hcandidate⟩ := Option.bind_eq_some_iff.mp hcandidate
    exact ⟨i, candidate, endpoint, route, hi, hcandidate, htaken⟩
  · have hcount : ∀ i candidate,
        (s.httpBackendCandidates way.rule.backendRefs (clock 0))[i]? = some candidate →
        (#{j ∈ range W | chosenRef cr s request sessionResolver clock st j = some i}
          = candidate.weight ↔ k.gcd W ∣ candidate.weight) := by
      intro i candidate hi
      simp only [hchosen]
      exact Snapshot.card_drawnPosition_eq_iff hi fun j hj =>
        ticket_of_unwrapped hpos hdrawn hwrap hj
    constructor
    · intro hexact candidate hmem
      obtain ⟨i, hi⟩ := List.mem_iff_getElem?.mp hmem
      exact (hcount i candidate hi).mp (hexact i candidate hi)
    · intro hdvd i candidate hi
      exact (hcount i candidate hi).mpr (hdvd candidate (List.mem_of_getElem? hi))

end

private def splitCluster (name address : String) : BackendCluster :=
  { name := name ++ ":8080"
    «namespace» := "default"
    endpoints := [{ address := address, port := 8080, healthy := true }] }

private def evenRule («matches» : List HttpMatch) : HttpRule :=
  { «matches» := «matches»
    backendRefs :=
      [{ «namespace» := "default", name := "blue", port := 8080, weight := 1 },
       { «namespace» := "default", name := "green", port := 8080, weight := 1 }] }

private def evenSnapshot (rules : List HttpRule) : Snapshot :=
  { httpRoutes := [{ name := "web", «namespace» := "default", rules := rules }]
    backends := [splitCluster "blue" "10.0.0.1", splitCluster "green" "10.0.0.2"] }

private def EvenlyAvailable (s : Snapshot) (request : RequestMeta) : Prop :=
  ((httpChoice inertCrates s request).map fun way =>
      (s.httpBackendCandidates way.rule.backendRefs 0).map fun candidate =>
        (candidate.backendName, candidate.weight))
    = some [("default/blue:8080", 1), ("default/green:8080", 1)]

/-- **A second rule that accepts the request starves a backend.**  The rule for the path wins, but
the rule for everything else takes every other ticket. -/
theorem even_split_starves : EvenlyAvailable
        (evenSnapshot [evenRule [{ path := "/shop", pathType := "PathPrefix" }], evenRule []])
        { path := "/shop" } ∧
      ((List.range 2).map fun j =>
          (call inertCrates
              (evenSnapshot [evenRule [{ path := "/shop", pathType := "PathPrefix" }], evenRule []])
              { path := "/shop" } (fun _ => none) (fun _ => 0) {} j).bind
            SelectedHttpRoute.backendName)
        = [some "default/blue:8080", some "default/blue:8080"] := by
  refine ⟨?_, by decide +kernel⟩
  unfold EvenlyAvailable
  decide +kernel

theorem even_split_exact :
    ∃ way, httpChoice inertCrates (evenSnapshot [evenRule []]) {} = some way ∧
      ∀ i candidate, ((evenSnapshot [evenRule []]).httpBackendCandidates way.rule.backendRefs 0)[i]?
            = some candidate →
          #{j ∈ range ((evenSnapshot [evenRule []]).availableWeight way.rule.backendRefs 0) |
            chosenRef inertCrates (evenSnapshot [evenRule []]) {} (fun _ => none) (fun _ => 0) {} j
              = some i} = candidate.weight := by
  have hfacts : (httpChoice inertCrates (evenSnapshot [evenRule []]) {}).map (fun way =>
      ((((evenSnapshot [evenRule []]).fixedResolution way.rule.backendRefs
          way.rule.sessionPersistence {} (fun _ => none) 0).isNone,
        ticketsPerCall inertCrates (evenSnapshot [evenRule []]) {} (fun _ => none) 0),
        (evenSnapshot [evenRule []]).availableWeight way.rule.backendRefs 0))
            = some ((true, 1), 2) := by
    decide +kernel
  obtain ⟨way, hway, hfacts⟩ := Option.map_eq_some_iff.mp hfacts
  obtain ⟨hfacts, htotal⟩ := Prod.mk.inj hfacts
  obtain ⟨hweight, htick⟩ := Prod.mk.inj hfacts
  have hwrap : ((({} : SelectionState).backendCursor.toNat
      + ticketsPerCall inertCrates (evenSnapshot [evenRule []]) {} (fun _ => none) 0
        * (evenSnapshot [evenRule []]).availableWeight way.rule.backendRefs 0)
      * (evenSnapshot [evenRule []]).availableWeight way.rule.backendRefs 0) ≤ 2 ^ 64 := by
    rw [htick, htotal]
    decide
  obtain ⟨-, hsplit⟩ := @weighted_split_iff inertCrates (evenSnapshot [evenRule []]) {}
    (fun _ => none) (fun _ => 0) {} way (fun _ _ _ => rfl) hway
    (Option.isNone_iff_eq_none.mp hweight) hwrap
  refine ⟨way, hway, hsplit.mpr fun candidate _ => ?_⟩
  rw [htick, Nat.gcd_one_left]
  exact Nat.one_dvd _

end NantianGateway
