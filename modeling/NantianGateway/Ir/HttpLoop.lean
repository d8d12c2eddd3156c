import NantianGateway.Ir.Resolution

/-!
# The loop over the rules

`select_http_route` makes a candidate for every rule that accepts the request and keeps the first
best one.  A rule that resolves by weight draws one ticket of each kind as its candidate is made,
kept or not; every other rule draws none.
-/

namespace NantianGateway

open Text Snapshot

namespace SelectionState

variable (st : SelectionState)

def advance (n : ℕ) : SelectionState :=
  { st with
    backendCursor := st.backendCursor + UInt64.ofNat n
    endpointCursor := st.endpointCursor + UInt64.ofNat n }

@[simp] theorem advance_zero : st.advance 0 = st := by
  simp [advance]

theorem advance_advance (m n : ℕ) : (st.advance m).advance n = st.advance (m + n) := by
  simp [advance, UInt64.ofNat_add, UInt64.add_assoc]

theorem exists_advance_eq (n : ℕ) : ∃ st' : SelectionState, st'.advance n = st :=
  ⟨{ st with
      backendCursor := st.backendCursor - UInt64.ofNat n
      endpointCursor := st.endpointCursor - UInt64.ofNat n }, by simp [advance]⟩

end SelectionState

section

variable (cr : Crates) (s : Snapshot) (request : RequestMeta)
  (sessionResolver : SessionPersistence → Option PersistentSessionTarget) (now : Instant)
  (context : RuleContext HttpRoute HttpRule)

def drawsTickets : Bool :=
  (bestHttpRuleMatch cr context.rule request).isSome
    && (s.fixedResolution context.rule.backendRefs context.rule.sessionPersistence request
      sessionResolver now).isNone

variable (st : SelectionState)

def ruleResolution : HttpBackendResolution :=
  (s.resolveHttpBackendRefsWithSession context.rule.backendRefs context.rule.sessionPersistence
    request sessionResolver now st).1

variable {s request sessionResolver now}

theorem resolve_snd (refs : List BackendRef) (routeSession : Option SessionPersistence)
    (st : SelectionState) :
    (s.resolveHttpBackendRefsWithSession refs routeSession request sessionResolver now st).2
      = st.advance
        (if (s.fixedResolution refs routeSession request sessionResolver now).isNone then 1
          else 0) := by
  rw [Snapshot.resolve_eq]
  cases hfixed : s.fixedResolution refs routeSession request sessionResolver now with
  | some resolution => simp
  | none =>
    obtain ⟨_, -, -, _, -, -, hspec⟩ := resolveWeighted_spec
      (candidates_ne_nil s now _ _ _ _ hfixed) routeSession st
    simp only [hspec]
    rfl

variable {cr}

theorem httpRuleCandidate_snd : (httpRuleCandidate cr s request sessionResolver now context st).2
      = st.advance (if drawsTickets cr s request sessionResolver now context then 1 else 0) := by
  rw [httpRuleCandidate, drawsTickets]
  cases bestHttpRuleMatch cr context.rule request with
  | none => simp
  | some best =>
    simp only [Option.isSome_some, Bool.true_and]
    rw [← resolve_snd]
    split <;> rfl

theorem httpRuleCandidate_fst : (httpRuleCandidate cr s request sessionResolver now context st).1
      = if s.ruleAdmissible now request sessionResolver context.rule then
          (bestHttpRuleMatch cr context.rule request).map fun best =>
            { context := context
              matchedHttpPath := best.1
              resolution := ruleResolution s request sessionResolver now context st
              score := ⟨context.listenerHost, context.routeHost, best.2⟩ }
        else none := by
  rw [httpRuleCandidate, ← admissibleResolution_resolve s now request sessionResolver
    context.rule st]
  cases bestHttpRuleMatch cr context.rule request with
  | none => simp
  | some best =>
    simp only [Option.map_some]
    split <;> rfl

theorem stateAfter_httpRuleCandidate (l : List (RuleContext HttpRoute HttpRule))
    (st : SelectionState) :
    Best.stateAfter (httpRuleCandidate cr s request sessionResolver now) st l
      = st.advance (l.countP (drawsTickets cr s request sessionResolver now)) := by
  induction l generalizing st with
  | nil => simp [Best.stateAfter]
  | cons context l ih =>
    have hcons : Best.stateAfter (httpRuleCandidate cr s request sessionResolver now) st
        (context :: l) = Best.stateAfter (httpRuleCandidate cr s request sessionResolver now)
          (httpRuleCandidate cr s request sessionResolver now context st).2 l := rfl
    rw [hcons, ih, httpRuleCandidate_snd, SelectionState.advance_advance,
      List.countP_cons, add_comm]

theorem httpContexts_eq_nil
    (h : (s.matchedListeners request.host request.port .http).enforceAttachments ∧
      (s.matchedListeners request.host request.port .http).listeners = []) :
    s.httpRuleContexts request = [] := by
  have hgate : ∀ route, s.httpRouteGate request route = none := by
    intro route
    have hmatch : s.routeListenerMatch (s.matchedListeners request.host request.port .http)
        route.namespace route.name = none := by
      rw [routeListenerMatch, h.2]
      simp
    rw [httpRouteGate, routeGate, hmatch, h.1]
    rfl
  rw [httpRuleContexts, List.flatMap_eq_nil_iff]
  intro entry _
  rw [routeContexts, hgate]

/-- **`select_http_route` is the first best candidate.** -/
theorem selectHttpRoute_eq : selectHttpRoute cr s request sessionResolver now st
      = (((Best.made (httpRuleCandidate cr s request sessionResolver now)
            (s.httpRuleContexts request) st).argmax HttpCandidate.score).map
              fun candidate => candidate.toSelected s,
          st.advance
            ((s.httpRuleContexts request).countP
                (drawsTickets cr s request sessionResolver now))) := by
  rw [selectHttpRoute]
  by_cases h : (s.matchedListeners request.host request.port .http).enforceAttachments ∧
      (s.matchedListeners request.host request.port .http).listeners = []
  · simp only [if_pos h, httpContexts_eq_nil h]
    simp [Best.made]
  · simp only [if_neg h, Best.foldl_scanStep, stateAfter_httpRuleCandidate]

end

end NantianGateway
