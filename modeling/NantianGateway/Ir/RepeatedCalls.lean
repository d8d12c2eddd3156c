import NantianGateway.Ir.ResolvesAlike
import NantianGateway.Ir.RuleChoice

/-!
# The same request again and again

Every call advances both cursors by the number of rules that accept the request and resolve by
weight, whether they win or not (`ticketsPerCall`).  So **the winning rule resolves call after call
with cursors in arithmetic progression, and with the same step for both** (`exists_callWinner`).
-/

namespace NantianGateway

open Option

/-! ## Health that does not change -/

namespace Snapshot

/-- Every endpoint is as available at the one time as at the other. -/
def SameHealth (s : Snapshot) (now now' : Instant) : Prop :=
  ∀ backendName endpoint, s.endpointAvailabilityAt backendName endpoint now
    = s.endpointAvailabilityAt backendName endpoint now'

namespace SameHealth

variable {s : Snapshot} {now now' : Instant}

theorem alikeAt (h : s.SameHealth now now') : s.AlikeAt s now now' := .of_health h

theorem httpRuleCandidate_congr (h : s.SameHealth now now') (cr : Crates) (request : RequestMeta)
    (sessionResolver : SessionPersistence → Option PersistentSessionTarget) :
    httpRuleCandidate cr s request sessionResolver now
      = httpRuleCandidate cr s request sessionResolver now' := by
  funext context st
  rw [httpRuleCandidate, httpRuleCandidate,
    h.alikeAt.resolve_congr rfl (fun _ => rfl) fun _ _ _ _ => rfl]

theorem selectHttpRoute_congr (h : s.SameHealth now now') (cr : Crates) (request : RequestMeta)
    (sessionResolver : SessionPersistence → Option PersistentSessionTarget) :
    selectHttpRoute cr s request sessionResolver now
      = selectHttpRoute cr s request sessionResolver now' := by
  funext st
  rw [selectHttpRoute, selectHttpRoute, h.httpRuleCandidate_congr]

end SameHealth
end Snapshot

/-! ## The winner and its tickets -/

section

variable (cr : Crates) (s : Snapshot) (request : RequestMeta)
  (sessionResolver : SessionPersistence → Option PersistentSessionTarget) (now : Instant)

def tracedCandidate (context : RuleContext HttpRoute HttpRule) (st : SelectionState) :
    Option (HttpCandidate × SelectionState) × SelectionState :=
  let (candidate, after) := httpRuleCandidate cr s request sessionResolver now context st
  (candidate.map fun candidate => (candidate, st), after)

/-- The winning candidate of a call, beside the state in which its rule was resolved. -/
def winner (st : SelectionState) : Option (HttpCandidate × SelectionState) :=
  ((s.httpRuleContexts request).foldl
    (Best.scanStep (tracedCandidate cr s request sessionResolver now) fun traced => traced.1.score)
    (none, st)).1

/-- The tickets of each kind that a call draws. -/
def ticketsPerCall : ℕ :=
  (s.httpRuleContexts request).countP (drawsTickets cr s request sessionResolver now)

variable {cr s request sessionResolver now}

theorem winner_toSelected (st : SelectionState) :
    (winner cr s request sessionResolver now st).map (fun won => won.1.toSelected s)
      = (selectHttpRoute cr s request sessionResolver now st).1 := by
  have hmake : ∀ context ∈ s.httpRuleContexts request, ∀ st,
      httpRuleCandidate cr s request sessionResolver now (id context) st
        = (tracedCandidate cr s request sessionResolver now context st).map
          (Option.map Prod.fst) id := by
    intro context _ st
    refine Prod.ext ?_ rfl
    rw [Prod.map_fst, tracedCandidate, map_map]
    exact map_id'.symm
  have hscore : ∀ traced : HttpCandidate × SelectionState, traced.1.score = traced.1.score :=
    fun _ => rfl
  have hscan := Best.foldl_scanStep_map _ _ hmake hscore (none, st)
  rw [List.map_id, Prod.map_apply, map_none, id_eq, Best.foldl_scanStep] at hscan
  rw [selectHttpRoute_eq, winner, (Prod.mk.inj hscan).1, map_map]
  rfl

variable {way : RouteMatch} {context : RuleContext HttpRoute HttpRule}

theorem rule_of_ruleWay (h : ruleWay cr request context = some way) : way.rule = context.rule := by
  rw [ruleWay] at h
  split at h
  · obtain ⟨best, -, rfl⟩ := map_eq_some_iff.mp h
    rfl
  · cases h

theorem isSome_of_ruleWay (h : ruleWay cr request context = some way) :
    (bestHttpRuleMatch cr context.rule request).isSome = true := by
  rw [ruleWay] at h
  split at h
  · obtain ⟨best, hbest, -⟩ := map_eq_some_iff.mp h
    rw [hbest, isSome_some]
  · cases h

variable {candidate : HttpCandidate} {st : SelectionState}

theorem resolution_of_candidate
    (h : (httpRuleCandidate cr s request sessionResolver now context st).1 = some candidate) :
    candidate.resolution = ruleResolution s request sessionResolver now context st := by
  rw [httpRuleCandidate_fst] at h
  split at h
  · obtain ⟨best, -, rfl⟩ := map_eq_some_iff.mp h
    rfl
  · cases h

theorem ruleWay_of_candidate
    (h : (httpRuleCandidate cr s request sessionResolver now context st).1 = some candidate) :
    ruleWay cr request context = some candidate.way := by
  rw [httpRuleCandidate_fst, Snapshot.ruleAdmissible_eq] at h
  rw [ruleWay]
  split at h
  next hoff =>
    obtain ⟨best, hbest, rfl⟩ := map_eq_some_iff.mp h
    rw [if_pos hoff, hbest]
    rfl
  next => cases h

/-- **The winner of a call.**  The rule chosen for the request wins, and it is resolved after a
number of tickets that is the same in every call. -/
theorem exists_winner (hway : httpChoice cr s request = some way)
    (hweight : s.fixedResolution way.rule.backendRefs way.rule.sessionPersistence request
      sessionResolver now = none) :
    ∃ drawn < ticketsPerCall cr s request sessionResolver now, ∀ st, ∃ candidate,
      winner cr s request sessionResolver now st = some (candidate, st.advance drawn) ∧
      candidate.way = way ∧
      candidate.resolution = (s.resolveWeighted way.rule.backendRefs way.rule.sessionPersistence
        now (st.advance drawn)).1 := by
  obtain ⟨earlier, context, later, hcontexts, hcontext, hbefore, hafter⟩ :=
    Best.argmax_filterMap_eq_some_iff_split.mp hway
  have hrule : way.rule = context.rule := rule_of_ruleWay hcontext
  rw [hrule] at hweight ⊢
  have hdraws : drawsTickets cr s request sessionResolver now context = true := by
    rw [drawsTickets, hweight, isSome_of_ruleWay hcontext]
    rfl
  refine ⟨earlier.countP (drawsTickets cr s request sessionResolver now), ?_, fun st => ?_⟩
  · rw [ticketsPerCall, hcontexts, List.countP_append, List.countP_cons_of_pos hdraws]
    omega
  · obtain ⟨candidate, hcandidate, hcandidateWay⟩ :=
      exists_candidate_of_ruleWay (s := s) hcontext sessionResolver now
        (st.advance (earlier.countP (drawsTickets cr s request sessionResolver now)))
    refine ⟨candidate, ?_, hcandidateWay, ?_⟩
    · have hstate : Best.stateAfter (tracedCandidate cr s request sessionResolver now) st earlier
          = st.advance (earlier.countP (drawsTickets cr s request sessionResolver now)) :=
        stateAfter_httpRuleCandidate earlier st
      have hbeaten : ∀ other st traced,
          (tracedCandidate cr s request sessionResolver now other st).1 = some traced →
            ruleWay cr request other = some traced.1.way := by
        intro other st traced htraced
        obtain ⟨made, hmade, rfl⟩ := map_eq_some_iff.mp htraced
        exact ruleWay_of_candidate hmade
      rw [winner, Best.foldl_scanStep]
      refine Best.argmax_made_of_split hcontexts ?_ (fun other hother st traced htraced => ?_)
        (fun other hother st traced htraced => ?_)
      · rw [hstate]
        exact congrArg (Option.map fun candidate => (candidate, _)) hcandidate
      · rw [← hcandidateWay] at hbefore
        exact hbefore other hother _ (hbeaten other st traced htraced)
      · rw [← hcandidateWay] at hafter
        exact hafter other hother _ (hbeaten other st traced htraced)
    · rw [resolution_of_candidate hcandidate, ruleResolution, Snapshot.resolve_eq, hweight]

end

/-! ## Calls in a row -/

section

variable (cr : Crates) (s : Snapshot) (request : RequestMeta)
  (sessionResolver : SessionPersistence → Option PersistentSessionTarget) (clock : ℕ → Instant)
  (st : SelectionState)

/-- The state before a call, where the calls come one after another and each has its time. -/
def callState : ℕ → SelectionState
  | 0 => st
  | j + 1 => (selectHttpRoute cr s request sessionResolver (clock j) (callState j)).2

def call (j : ℕ) : Option SelectedHttpRoute :=
  (selectHttpRoute cr s request sessionResolver (clock j)
    (callState cr s request sessionResolver clock st j)).1

def callWinner (j : ℕ) : Option (HttpCandidate × SelectionState) :=
  winner cr s request sessionResolver (clock j) (callState cr s request sessionResolver clock st j)

variable {cr s request sessionResolver clock st}

theorem call_eq (j : ℕ) : call cr s request sessionResolver clock st j
      = (callWinner cr s request sessionResolver clock st j).map fun won => won.1.toSelected s :=
  (winner_toSelected _).symm

theorem callState_eq (hhealth : ∀ j, s.SameHealth (clock j) (clock 0)) (j : ℕ) :
    callState cr s request sessionResolver clock st j
      = st.advance (ticketsPerCall cr s request sessionResolver (clock 0) * j) := by
  induction j with
  | zero => rw [callState, Nat.mul_zero, SelectionState.advance_zero]
  | succ j ih =>
    rw [callState, (hhealth j).selectHttpRoute_congr, ih, selectHttpRoute_eq,
      SelectionState.advance_advance]
    rfl

theorem exists_callWinner {way : RouteMatch} (hhealth : ∀ j, s.SameHealth (clock j) (clock 0))
    (hway : httpChoice cr s request = some way)
    (hweight : s.fixedResolution way.rule.backendRefs way.rule.sessionPersistence request
      sessionResolver (clock 0) = none) :
    ∃ drawn < ticketsPerCall cr s request sessionResolver (clock 0), ∀ st j, ∃ candidate,
      callWinner cr s request sessionResolver clock st j = some (candidate,
        st.advance (drawn + ticketsPerCall cr s request sessionResolver (clock 0) * j)) ∧
      candidate.way = way ∧
      candidate.resolution = (s.resolveWeighted way.rule.backendRefs way.rule.sessionPersistence
        (clock 0) (st.advance
          (drawn + ticketsPerCall cr s request sessionResolver (clock 0) * j))).1 := by
  obtain ⟨drawn, hdrawn, hwinner⟩ := exists_winner hway hweight
  refine ⟨drawn, hdrawn, fun st j => ?_⟩
  have hsame : winner cr s request sessionResolver (clock j)
      = winner cr s request sessionResolver (clock 0) := by
    have htraced : tracedCandidate cr s request sessionResolver (clock j)
        = tracedCandidate cr s request sessionResolver (clock 0) := by
      funext context st
      rw [tracedCandidate, tracedCandidate, (hhealth j).httpRuleCandidate_congr]
    funext st
    rw [winner, winner, htraced]
  obtain ⟨candidate, hcandidate⟩ := hwinner (callState cr s request sessionResolver clock st j)
  rw [callState_eq hhealth, SelectionState.advance_advance, Nat.add_comm _ drawn] at hcandidate
  refine ⟨candidate, ?_, hcandidate.2⟩
  rw [callWinner, hsame, callState_eq hhealth]
  exact hcandidate.1

end

end NantianGateway
