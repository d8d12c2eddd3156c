import Mathlib.Data.List.AList
import NantianGateway.Ir.Types

/-!
# State that outlives a request

The ticket counters (`SelectionState`), 64-bit atomics that wrap, and what passive ejection and
active probes know about each endpoint (`EndpointRuntimeStore`).  A key always falls into the same
of the source's 32 shards, so the shards are one map here.
-/

namespace NantianGateway

/-! ## Tickets -/

structure SelectionState where
  backendCursor : UInt64 := 0
  endpointCursor : UInt64 := 0
  mirrorCursor : UInt64 := 0
  deriving DecidableEq

namespace SelectionState

def nextBackendTicket (st : SelectionState) : UInt64 × SelectionState :=
  (st.backendCursor, { st with backendCursor := st.backendCursor + 1 })

def nextEndpointTicket (st : SelectionState) : UInt64 × SelectionState :=
  (st.endpointCursor, { st with endpointCursor := st.endpointCursor + 1 })

end SelectionState

/-! ## Endpoint state -/

structure EndpointRuntimeKey where
  backendName : String
  address : String
  port : UInt32
  deriving DecidableEq

def EndpointRuntimeKey.new (backendName : String) (endpoint : BackendEndpoint) :
    EndpointRuntimeKey :=
  ⟨backendName, endpoint.address, endpoint.port⟩

structure EndpointRuntimeState where
  consecutiveFailures : ℕ := 0
  ejectedUntil : Option Instant := none
  recoveryStartedAt : Option Instant := none
  activeConsecutiveFailures : ℕ := 0
  activeUnhealthy : Bool := false
  deriving DecidableEq

def passiveEjectionConsecutiveFailures : ℕ := 3

def passiveEjectionCooldown : Duration := 30 * 10 ^ 9

namespace EndpointRuntimeState

def saturatingSucc (n : ℕ) : ℕ := min (n + 1) (2 ^ 32 - 1)

variable (state : EndpointRuntimeState)

def isDefaultState : Bool :=
  state.consecutiveFailures == 0 && state.ejectedUntil.isNone && state.recoveryStartedAt.isNone
    && state.activeConsecutiveFailures == 0 && !state.activeUnhealthy

variable (now : Instant)

def isEjectedAt : Bool :=
  state.ejectedUntil.any fun deadline => now < deadline

def ejectionExpiredAt : Bool :=
  state.ejectedUntil.any fun deadline => deadline ≤ now

def recordFailure : EndpointRuntimeState :=
  let state := if state.ejectionExpiredAt now then {} else state
  let wasEjected := state.isEjectedAt now
  let state := { state with consecutiveFailures := saturatingSucc state.consecutiveFailures }
  if passiveEjectionConsecutiveFailures ≤ state.consecutiveFailures then
    { state with
      recoveryStartedAt :=
        if wasEjected then state.recoveryStartedAt else some (state.recoveryStartedAt.getD now)
      ejectedUntil := some (now + passiveEjectionCooldown) }
  else state

/-- A success clears everything, whatever the state was. -/
def recordSuccess (_ : EndpointRuntimeState) : EndpointRuntimeState := {}

def recordActiveProbeFailure (unhealthyThreshold : ℕ) (now : Instant) : EndpointRuntimeState :=
  let threshold := max unhealthyThreshold 1
  let wasUnhealthy := state.activeUnhealthy
  let state :=
    { state with activeConsecutiveFailures := saturatingSucc state.activeConsecutiveFailures }
  if threshold ≤ state.activeConsecutiveFailures then
    { state with
      recoveryStartedAt :=
        if wasUnhealthy then state.recoveryStartedAt else some (state.recoveryStartedAt.getD now)
      activeUnhealthy := true }
  else state

/-- A successful probe clears everything, whatever the state was. -/
def recordActiveProbeSuccess (_ : EndpointRuntimeState) : EndpointRuntimeState := {}

end EndpointRuntimeState

/-! ## The store -/

/-- The endpoint states, with the count that is read in their place. -/
structure EndpointRuntimeStore where
  /-- The states that differ from the default one. -/
  states : AList fun _ : EndpointRuntimeKey => EndpointRuntimeState
  trackedStates : ℕ
  counted : trackedStates = states.keys.length

namespace EndpointRuntimeStore

def empty : EndpointRuntimeStore := ⟨∅, 0, rfl⟩

variable (store : EndpointRuntimeStore)

def hasTrackedStates : Bool := store.trackedStates ≠ 0

variable (key : EndpointRuntimeKey)

def getCloned : Option EndpointRuntimeState :=
  store.states.lookup key

def put (state : EndpointRuntimeState) : EndpointRuntimeStore where
  states := store.states.insert key state
  trackedStates := if key ∈ store.states then store.trackedStates else store.trackedStates + 1
  counted := by
    rw [AList.keys_insert, List.length_cons, List.length_erase, store.counted]
    by_cases h : key ∈ store.states
    · have hkey := AList.mem_keys.mp h
      have hpos : 0 < store.states.keys.length := List.length_pos_of_mem hkey
      rw [if_pos h, if_pos hkey]
      omega
    · rw [if_neg h, if_neg fun hkey => h (AList.mem_keys.mpr hkey)]

def remove : EndpointRuntimeStore where
  states := store.states.erase key
  trackedStates := if key ∈ store.states then store.trackedStates - 1 else store.trackedStates
  counted := by
    rw [AList.keys_erase, List.length_erase, store.counted]
    exact if_congr AList.mem_keys rfl rfl

/-- `EndpointRuntimeStoreInner::update`: apply a change to the state of a key, and keep
an entry only for a state that is not the default one. -/
def update (change : EndpointRuntimeState → EndpointRuntimeState) : EndpointRuntimeStore :=
  let state := change ((store.getCloned key).getD {})
  if state.isDefaultState then store.remove key else store.put key state

variable (backendName : String) (endpoint : BackendEndpoint)

def recordFailureAt (now : Instant) : EndpointRuntimeStore :=
  store.update (.new backendName endpoint) fun state => state.recordFailure now

/-- Nothing is looked up when the count is zero, and nothing is written for a key
without an entry. -/
def recordSuccess : EndpointRuntimeStore :=
  if store.hasTrackedStates then
    if (store.getCloned (.new backendName endpoint)).isSome then
      store.update (.new backendName endpoint) EndpointRuntimeState.recordSuccess
    else store
  else store

def recordActiveProbeFailure (unhealthyThreshold : ℕ) (now : Instant) : EndpointRuntimeStore :=
  store.update (.new backendName endpoint) fun state =>
    state.recordActiveProbeFailure unhealthyThreshold now

def recordActiveProbeSuccess : EndpointRuntimeStore :=
  store.update (.new backendName endpoint) EndpointRuntimeState.recordActiveProbeSuccess

theorem getCloned_of_not_hasTrackedStates {store : EndpointRuntimeStore}
    (h : store.hasTrackedStates = false) (key : EndpointRuntimeKey) :
    store.getCloned key = none := by
  have hzero : store.trackedStates = 0 := by simpa [hasTrackedStates] using h
  have hkeys : store.states.keys = [] := by
    rw [← List.length_eq_zero_iff, ← store.counted, hzero]
  rw [getCloned, AList.lookup_eq_none, AList.mem_keys, hkeys]
  exact List.not_mem_nil

end EndpointRuntimeStore

end NantianGateway
