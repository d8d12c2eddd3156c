import NantianGateway.Ir.Availability

/-!
# What is known about an endpoint

After three failed requests in a row an endpoint is ejected for thirty seconds; and probes may find
it unhealthy.  Both are in one record, which is reset as a whole: by a success of either kind, and
by a failure that finds the ejection expired.
-/

namespace NantianGateway

open EndpointRuntimeState Option

/-! ## The state of an endpoint in the store -/

namespace EndpointRuntimeState

theorem eq_default_of_isDefaultState {state : EndpointRuntimeState}
    (h : state.isDefaultState = true) : state = {} := by
  obtain ⟨failures, deadline, recovery, active, unhealthy⟩ := state
  simp only [isDefaultState, Bool.and_eq_true, beq_iff_eq, isNone_iff_eq_none,
    Bool.not_eq_true'] at h
  obtain ⟨⟨⟨⟨rfl, rfl⟩, rfl⟩, rfl⟩, rfl⟩ := h
  rfl

end EndpointRuntimeState

namespace EndpointRuntimeStore

def stateOf (store : EndpointRuntimeStore) (key : EndpointRuntimeKey) : EndpointRuntimeState :=
  (store.getCloned key).getD {}

section

variable (store : EndpointRuntimeStore) (key key' : EndpointRuntimeKey)

include store key key'

theorem stateOf_remove :
    (store.remove key).stateOf key' = if key' = key then {} else store.stateOf key' := by
  show ((store.states.erase key).lookup key').getD {} = _
  split
  · next h =>
    subst h
    rw [AList.lookup_erase, getD_none]
  · next h => rw [AList.lookup_erase_ne h]; rfl

theorem stateOf_put (state : EndpointRuntimeState) :
    (store.put key state).stateOf key' = if key' = key then state else store.stateOf key' := by
  show ((store.states.insert key state).lookup key').getD {} = _
  split
  · next h =>
    subst h
    rw [AList.lookup_insert, getD_some]
  · next h => rw [AList.lookup_insert_ne h]; rfl

theorem stateOf_update (change : EndpointRuntimeState → EndpointRuntimeState) :
    (store.update key change).stateOf key'
      = if key' = key then change (store.stateOf key) else store.stateOf key' := by
  rw [update]
  split
  · next hdefault =>
    have hsame : change (store.stateOf key) = {} := eq_default_of_isDefaultState hdefault
    rw [stateOf_remove, hsame]
  · exact stateOf_put _ _ _ _

end

theorem stateOf_recordSuccess (store : EndpointRuntimeStore) (backendName : String)
    (endpoint : BackendEndpoint) (key : EndpointRuntimeKey) :
    (store.recordSuccess backendName endpoint).stateOf key
      = if key = .new backendName endpoint then {} else store.stateOf key := by
  have hnone (h : store.getCloned (.new backendName endpoint) = none) :
      store.stateOf key = if key = .new backendName endpoint then {} else store.stateOf key := by
    split
    · next heq => rw [heq, stateOf, h, getD_none]
    · rfl
  rw [recordSuccess]
  split
  · split
    · exact stateOf_update _ _ _ _
    · next hentry => exact hnone (by simpa using hentry)
  · next htracked =>
    exact hnone (getCloned_of_not_hasTrackedStates (by simpa using htracked) _)

end EndpointRuntimeStore

/-! ## Events -/

inductive HealthEventKind where
  | failure
  | success
  | probeFailure (unhealthyThreshold : ℕ)
  | probeSuccess

/-- Something is learned about an endpoint of a backend. -/
structure HealthEvent where
  backendName : String
  endpoint : BackendEndpoint
  kind : HealthEventKind
  time : Instant

def HealthEvent.key (event : HealthEvent) : EndpointRuntimeKey :=
  .new event.backendName event.endpoint

/-- What an event does to the state of its endpoint. -/
def EndpointRuntimeState.record (state : EndpointRuntimeState) (now : Instant) :
    HealthEventKind → EndpointRuntimeState
  | .failure => state.recordFailure now
  | .success => state.recordSuccess
  | .probeFailure unhealthyThreshold => state.recordActiveProbeFailure unhealthyThreshold now
  | .probeSuccess => state.recordActiveProbeSuccess

variable (store : EndpointRuntimeStore) (event : HealthEvent)

def EndpointRuntimeStore.observe : EndpointRuntimeStore :=
  match event.kind with
  | .failure => store.recordFailureAt event.backendName event.endpoint event.time
  | .success => store.recordSuccess event.backendName event.endpoint
  | .probeFailure unhealthyThreshold =>
    store.recordActiveProbeFailure event.backendName event.endpoint unhealthyThreshold event.time
  | .probeSuccess => store.recordActiveProbeSuccess event.backendName event.endpoint

def EndpointRuntimeStore.observed (events : List HealthEvent) : EndpointRuntimeStore :=
  events.foldl EndpointRuntimeStore.observe .empty

theorem EndpointRuntimeStore.stateOf_observe (key : EndpointRuntimeKey) :
    (store.observe event).stateOf key
      = if key = event.key then (store.stateOf key).record event.time event.kind
        else store.stateOf key := by
  have hkey (change : EndpointRuntimeState → EndpointRuntimeState) :
      (store.update event.key change).stateOf key
        = if key = event.key then change (store.stateOf key) else store.stateOf key := by
    rw [stateOf_update]
    split
    · next h => rw [h]
    · rfl
  rw [observe]
  cases event.kind with
  | success => exact store.stateOf_recordSuccess event.backendName event.endpoint key
  | _ => exact hkey _

/-! ## Failures in a row -/

/-- Until when failures in a row, the most recent first, eject an endpoint. -/
def streakDeadline : List Instant → Option Instant
  | [] => none
  | last :: earlier =>
    if passiveEjectionConsecutiveFailures ≤ (last :: earlier).length then
      some (last + passiveEjectionCooldown)
    else none

/-- The failures since the last success or expired ejection, after one more event. -/
def streakStep (streak : List Instant) (now : Instant) : HealthEventKind → List Instant
  | .failure => if (streakDeadline streak).any (· ≤ now) then [now] else now :: streak
  | .success | .probeSuccess => []
  | .probeFailure _ => streak

/-- The failures of an endpoint since its last success or expired ejection. -/
def streak (events : List HealthEvent) (key : EndpointRuntimeKey) : List Instant :=
  events.foldl (fun streak event =>
      if key = event.key then streakStep streak event.time event.kind else streak) []

variable {failures : List Instant} {state : EndpointRuntimeState}

theorem streakDeadline_eq_some_iff {deadline : Instant} : streakDeadline failures = some deadline
      ↔ passiveEjectionConsecutiveFailures ≤ failures.length ∧
        ∃ last ∈ failures.head?, deadline = last + passiveEjectionCooldown := by
  cases failures with
  | nil => simp [streakDeadline, passiveEjectionConsecutiveFailures]
  | cons last earlier =>
    rw [streakDeadline, List.head?_cons]
    split
    · next h =>
      constructor
      · exact fun heq => ⟨h, last, rfl, (Option.some.inj heq).symm⟩
      · rintro ⟨-, last', hlast, rfl⟩
        rw [Option.some.inj hlast]
    · next h =>
      exact ⟨fun heq => absurd heq.symm (some_ne_none _), fun hand => absurd hand.1 h⟩

theorem any_streakDeadline {p : Instant → Bool} : (streakDeadline failures).any p = true
      ↔ passiveEjectionConsecutiveFailures ≤ failures.length ∧
        ∃ last ∈ failures.head?, p (last + passiveEjectionCooldown) = true := by
  cases hdead : streakDeadline failures with
  | none =>
    refine ⟨fun hany => absurd hany Bool.false_ne_true, ?_⟩
    rintro ⟨hthree, last, hlast, -⟩
    have hsome := streakDeadline_eq_some_iff.mpr ⟨hthree, last, hlast, rfl⟩
    exact absurd (hsome.symm.trans hdead) (some_ne_none _)
  | some deadline =>
    obtain ⟨hthree, last, hlast, rfl⟩ := streakDeadline_eq_some_iff.mp hdead
    refine ⟨fun hp => ⟨hthree, last, hlast, hp⟩, ?_⟩
    rintro ⟨-, last', hlast', hp⟩
    rw [mem_unique hlast' hlast] at hp
    exact hp

/-- The record knows how many failures there were in a row, as far as it can count, and until
when they eject the endpoint. -/
structure Follows (state : EndpointRuntimeState) (failures : List Instant) : Prop where
  consecutiveFailures_eq : state.consecutiveFailures = min failures.length (2 ^ 32 - 1)
  ejectedUntil_eq : state.ejectedUntil = streakDeadline failures

theorem follows_default : Follows {} [] := ⟨rfl, rfl⟩

theorem recordFailure_of_not_expired {now : Instant} (h : state.ejectionExpiredAt now = false) :
    (state.recordFailure now).consecutiveFailures = saturatingSucc state.consecutiveFailures ∧
      (state.recordFailure now).ejectedUntil
        = (if passiveEjectionConsecutiveFailures ≤ saturatingSucc state.consecutiveFailures then
            some (now + passiveEjectionCooldown) else state.ejectedUntil) ∧
      (state.recordFailure now).activeUnhealthy = state.activeUnhealthy := by
  rw [recordFailure, h]
  simp only [Bool.false_eq_true, if_false]
  split <;> exact ⟨rfl, rfl, rfl⟩

theorem recordFailure_of_expired {now : Instant} (h : state.ejectionExpiredAt now = true) :
    state.recordFailure now = { consecutiveFailures := 1 } := by
  rw [recordFailure, h]
  rfl

theorem follows_record (h : Follows state failures) (now : Instant) (kind : HealthEventKind) :
    Follows (state.record now kind) (streakStep failures now kind) := by
  obtain ⟨hcount, hdead⟩ := h
  cases kind with
  | failure =>
    have hexpired : state.ejectionExpiredAt now = (streakDeadline failures).any (· ≤ now) := by
      rw [ejectionExpiredAt, hdead]
    rw [record, streakStep]
    cases hcase : (streakDeadline failures).any (· ≤ now) with
    | true =>
      rw [recordFailure_of_expired (hexpired.trans hcase), if_pos rfl]
      exact ⟨rfl, rfl⟩
    | false =>
      obtain ⟨hcons, hejected, -⟩ := recordFailure_of_not_expired (hexpired.trans hcase)
      rw [if_neg Bool.false_ne_true]
      have hsucc : saturatingSucc state.consecutiveFailures
          = min (now :: failures).length (2 ^ 32 - 1) := by
        rw [saturatingSucc, hcount, List.length_cons]
        omega
      refine ⟨hcons.trans hsucc, hejected.trans ?_⟩
      rw [hsucc, streakDeadline, hdead]
      have hthree : passiveEjectionConsecutiveFailures ≤ min (now :: failures).length (2 ^ 32 - 1)
          ↔ passiveEjectionConsecutiveFailures ≤ (now :: failures).length :=
        le_min_iff.trans (and_iff_left (by decide))
      rw [if_congr hthree rfl rfl]
      split
      · rfl
      · next hfew =>
        -- with fewer than three failures there was no deadline before
        cases hbefore : streakDeadline failures with
        | none => rfl
        | some deadline =>
          have henough := (streakDeadline_eq_some_iff.mp hbefore).1
          exact absurd (henough.trans (Nat.le_succ _)) hfew
  | success => exact follows_default
  | probeFailure unhealthyThreshold =>
    rw [record, recordActiveProbeFailure]
    split <;> exact ⟨hcount, hdead⟩
  | probeSuccess => exact follows_default

variable (events : List HealthEvent)

theorem follows_observed (key : EndpointRuntimeKey) :
    Follows ((EndpointRuntimeStore.observed events).stateOf key) (streak events key) := by
  have hrun (store : EndpointRuntimeStore) (failures : List Instant)
      (h : Follows (store.stateOf key) failures) :
      Follows ((events.foldl EndpointRuntimeStore.observe store).stateOf key) (events.foldl
          (fun streak event =>
            if key = event.key then streakStep streak event.time event.kind else streak)
          failures) := by
    induction events generalizing store failures with
    | nil => exact h
    | cons event events ih =>
      refine ih _ _ ?_
      show Follows _ (if key = event.key then _ else _)
      rw [EndpointRuntimeStore.stateOf_observe]
      by_cases hkey : key = event.key
      · rw [if_pos hkey, if_pos hkey]
        exact follows_record h event.time event.kind
      · rw [if_neg hkey, if_neg hkey]
        exact h
  exact hrun .empty [] follows_default

/-- **The health of an endpoint is its own**: its record is what its own events make of it, whatever
is observed of others in between. -/
theorem EndpointRuntimeStore.stateOf_observed_own (key : EndpointRuntimeKey) :
    (observed events).stateOf key
      = (observed (events.filter fun event => event.key = key)).stateOf key := by
  induction events using List.reverseRecOn with
  | nil => rfl
  | append_singleton events event ih =>
    rw [observed, List.foldl_append, List.foldl_cons, List.foldl_nil, stateOf_observe,
      List.filter_append, List.filter_singleton]
    by_cases hkey : event.key = key
    · rw [decide_eq_true hkey, cond_true, observed, List.foldl_append, List.foldl_cons,
        List.foldl_nil, stateOf_observe, if_pos hkey.symm, if_pos hkey.symm]
      exact congrArg (EndpointRuntimeState.record · _ _) ih
    · rw [decide_eq_false hkey, cond_false, List.append_nil, if_neg (Ne.symm hkey)]
      exact ih

/-! ## Availability -/

/-- The snapshot with what is known about the endpoints. -/
def Snapshot.withRuntime (s : Snapshot) (store : EndpointRuntimeStore) : Snapshot :=
  { s with endpointRuntime := store }

section

variable {s : Snapshot} {store : EndpointRuntimeStore} {backendName : String}
  {endpoint : BackendEndpoint} {now : Instant}

theorem activelyUnhealthy_withRuntime : (s.withRuntime store).activelyUnhealthy backendName endpoint
      = (store.stateOf (.new backendName endpoint)).activeUnhealthy := by
  rw [Snapshot.activelyUnhealthy, EndpointRuntimeStore.stateOf, Snapshot.withRuntime]
  cases store.getCloned (.new backendName endpoint) <;> rfl

theorem ejected_withRuntime : (s.withRuntime store).ejected backendName now endpoint
      = (store.stateOf (.new backendName endpoint)).isEjectedAt now := by
  rw [Snapshot.ejected, EndpointRuntimeStore.stateOf, Snapshot.withRuntime]
  cases store.getCloned (.new backendName endpoint) <;> rfl

theorem endpointAvailabilityAt_eq_unavailable_iff :
    (s.withRuntime store).endpointAvailabilityAt backendName endpoint now = .unavailable
      ↔ endpoint.healthy = false ∨
        (store.stateOf (.new backendName endpoint)).activeUnhealthy = true := by
  rw [Snapshot.endpointAvailabilityAt_eq, Snapshot.servable, activelyUnhealthy_withRuntime]
  cases endpoint.healthy with
  | false => simp
  | true =>
    cases (store.stateOf (.new backendName endpoint)).activeUnhealthy with
    | false =>
      simp only [Bool.true_and, Bool.not_false, Bool.true_eq_false, if_false]
      split <;> simp
    | true => simp

theorem ejected_iff_streak :
    (s.withRuntime (.observed events)).ejected backendName now endpoint = true
      ↔ passiveEjectionConsecutiveFailures ≤ (streak events (.new backendName endpoint)).length ∧
        ∃ last ∈ (streak events (.new backendName endpoint)).head?,
          now < last + passiveEjectionCooldown := by
  rw [ejected_withRuntime, isEjectedAt, (follows_observed events _).ejectedUntil_eq,
    any_streakDeadline]
  simp only [decide_eq_true_eq]

theorem activeUnhealthy_recordFailureAt :
    ((store.recordFailureAt backendName endpoint now).stateOf
      (.new backendName endpoint)).activeUnhealthy
        = true
      ↔ (store.stateOf (.new backendName endpoint)).activeUnhealthy = true ∧
        (store.stateOf (.new backendName endpoint)).ejectionExpiredAt now = false := by
  rw [EndpointRuntimeStore.recordFailureAt, EndpointRuntimeStore.stateOf_update, if_pos rfl]
  cases hexpired : (store.stateOf (.new backendName endpoint)).ejectionExpiredAt now with
  | true =>
    rw [recordFailure_of_expired hexpired]
    exact ⟨fun h => absurd h Bool.false_ne_true, fun h => absurd h.2.symm Bool.false_ne_true⟩
  | false =>
    rw [(recordFailure_of_not_expired hexpired).2.2]
    exact (and_iff_left rfl).symm

end

/-- **When active health dominates.**  A failed request leaves an endpoint that the probes found
unhealthy unavailable, unless it was ejected and the ejection has expired by then. -/
theorem active_health_iff (s : Snapshot) (events : List HealthEvent) (backendName : String)
    (endpoint : BackendEndpoint) (now : Instant) :
    (((s.withRuntime (.observed events)).activelyUnhealthy backendName endpoint = true →
        ∀ t, (s.withRuntime ((EndpointRuntimeStore.observed events).recordFailureAt backendName
          endpoint now)).endpointAvailabilityAt backendName endpoint t = .unavailable) ∧
      ∀ t, (s.withRuntime (.observed events)).ejected backendName t endpoint = true
        ↔ passiveEjectionConsecutiveFailures ≤ (streak events (.new backendName endpoint)).length ∧
          ∃ last ∈ (streak events (.new backendName endpoint)).head?,
            t < last + passiveEjectionCooldown) ↔
    ¬ (endpoint.healthy = true ∧
      (s.withRuntime (.observed events)).activelyUnhealthy backendName endpoint = true ∧
      passiveEjectionConsecutiveFailures ≤ (streak events (.new backendName endpoint)).length ∧
      ∃ last ∈ (streak events (.new backendName endpoint)).head?,
        last + passiveEjectionCooldown ≤ now) := by
  have hexpired : ((EndpointRuntimeStore.observed events).stateOf
        (.new backendName endpoint)).ejectionExpiredAt now = true
      ↔ passiveEjectionConsecutiveFailures ≤ (streak events (.new backendName endpoint)).length ∧
        ∃ last ∈ (streak events (.new backendName endpoint)).head?,
          last + passiveEjectionCooldown ≤ now := by
    rw [ejectionExpiredAt, (follows_observed events _).ejectedUntil_eq, any_streakDeadline]
    simp only [decide_eq_true_eq]
  rw [and_iff_left fun t => ejected_iff_streak events, ← hexpired]
  simp only [endpointAvailabilityAt_eq_unavailable_iff, activelyUnhealthy_withRuntime,
    activeUnhealthy_recordFailureAt, forall_const]
  cases endpoint.healthy <;>
    cases ((EndpointRuntimeStore.observed events).stateOf
      (.new backendName endpoint)).activeUnhealthy <;>
    simp

private def probedEndpoint : BackendEndpoint :=
  { address := "10.0.0.1", port := 8080, healthy := true }

private def failuresAndProbe : List HealthEvent :=
  [⟨"default/web:80", probedEndpoint, .failure, 0⟩, ⟨"default/web:80", probedEndpoint, .failure, 1⟩,
    ⟨"default/web:80", probedEndpoint, .failure, 2⟩,
    ⟨"default/web:80", probedEndpoint, .probeFailure 1, 3⟩]

/-- **A failed request makes an endpoint a primary one that the probes found unhealthy**: it
comes forty seconds later, when the ejection has expired. -/
theorem failure_clears_probes :
    (({} : Snapshot).withRuntime (.observed failuresAndProbe)).endpointAvailabilityAt
      "default/web:80" probedEndpoint (40 * 10 ^ 9) = .unavailable ∧
    (({} : Snapshot).withRuntime ((EndpointRuntimeStore.observed failuresAndProbe).recordFailureAt
      "default/web:80" probedEndpoint (40 * 10 ^ 9))).endpointAvailabilityAt
      "default/web:80" probedEndpoint (40 * 10 ^ 9) = .primary := by
  decide +kernel

end NantianGateway
