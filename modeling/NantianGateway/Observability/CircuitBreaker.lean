import NantianGateway.Lib.Semaphores
import NantianGateway.Lib.Text
import NantianGateway.Observability.OverloadStats

/-!
# The circuit breaker

`HttpCircuitBreakerController`: at most so many requests are in flight to a backend; zero means no
limit.  A limit of a backend's own comes before the one for all backends.  An acquire looks the
limit up, takes the semaphore of the trimmed name, which is made with the limit if the name has
none, and tries to take a permit of it.  A blank name, like a limit of zero, is never counted.
-/

namespace NantianGateway.Observability
namespace CircuitBreaker

open Text Semaphores List

/-! ## The controller -/

/-- `HttpCircuitBreakerSnapshot`, which is also what the statistics keep. -/
structure HttpCircuitBreakerSnapshot where
  backendMaxInflightRequests : ℕ
  backendInflightCurrent : NamedCounterMap
  rejectedTotal : ℕ
  rejectedBackendTotal : ℕ
  rejectedBackendByName : NamedCounterMap

namespace HttpCircuitBreakerSnapshot

variable (stats : HttpCircuitBreakerSnapshot) (backend : String)

def observeBackendAcquire : HttpCircuitBreakerSnapshot :=
  { stats with backendInflightCurrent := stats.backendInflightCurrent.incrementNamed backend }

def observeBackendReject : HttpCircuitBreakerSnapshot :=
  { stats with
    rejectedTotal := stats.rejectedTotal + 1
    rejectedBackendTotal := stats.rejectedBackendTotal + 1
    rejectedBackendByName := stats.rejectedBackendByName.incrementNamed backend }

end HttpCircuitBreakerSnapshot

structure HttpCircuitBreakerController where
  backendLimit : ℕ
  perBackendLimits : Table String ℕ
  backends : Pool String
  stats : HttpCircuitBreakerSnapshot

inductive HttpCircuitBreakerRejection where
  | backend
deriving DecidableEq

structure KeyedCleanup where
  key : String
  limit : ℕ

/-- `HttpCircuitBreakerPermit`.  The semaphore it came from, if any, is one of its backend. -/
structure HttpCircuitBreakerPermit where
  permit : Option (Arc String)
  backend : String
  cleanup : Option KeyedCleanup
  key_eq : ∀ arc ∈ permit, arc.key = backend

/-- `keyed_semaphore`: the semaphore of a key, with a reference for the caller. -/
def keyedSemaphore (entries : Pool String) (key : String) (limit : ℕ) : ℕ × Pool String :=
  match entries.entries key with
  | some serial => (serial, entries.retain ⟨key, serial⟩)
  | none => (entries.next key, entries.insertNew key limit)

namespace HttpCircuitBreakerController

def new (backendMaxInflightRequests : ℕ) : HttpCircuitBreakerController where
  backendLimit := backendMaxInflightRequests
  perBackendLimits := Table.empty
  backends := .empty
  stats :=
    { backendMaxInflightRequests := backendMaxInflightRequests
      backendInflightCurrent := .empty
      rejectedTotal := 0
      rejectedBackendTotal := 0
      rejectedBackendByName := .empty }

section

variable (controller : HttpCircuitBreakerController) (backend : String)

def backendLimitFor : ℕ :=
  (controller.perBackendLimits backend).getD controller.backendLimit

def setBackendLimit (limit : ℕ) : HttpCircuitBreakerController :=
  { controller with perBackendLimits := controller.perBackendLimits.insert backend limit }

/-- `try_acquire_backend` from where the limit is known and positive and the name is not blank. -/
def acquireLimited (limit : ℕ) :
    Except HttpCircuitBreakerRejection HttpCircuitBreakerPermit × HttpCircuitBreakerController :=
  let serial := (keyedSemaphore controller.backends backend limit).1
  let pool := (keyedSemaphore controller.backends backend limit).2.retain ⟨backend, serial⟩
  if 0 < pool.available ⟨backend, serial⟩ then
    (.ok
      { permit := some ⟨backend, serial⟩
        backend := backend
        cleanup := some ⟨backend, limit⟩
        key_eq := fun _ h => Option.some.inj h ▸ rfl },
      { controller with
        backends := (pool.take ⟨backend, serial⟩).release ⟨backend, serial⟩
        stats := controller.stats.observeBackendAcquire backend })
  else
    (.error .backend, { controller with
        backends := (pool.release ⟨backend, serial⟩).release ⟨backend, serial⟩
        stats := controller.stats.observeBackendReject backend })

end

def untracked (backend : String) : HttpCircuitBreakerPermit where
  permit := none
  backend := backend
  cleanup := none
  key_eq _ h := absurd h.symm (Option.some_ne_none _)

variable (controller : HttpCircuitBreakerController)

def tryAcquireBackend (backend : String) :
    Except HttpCircuitBreakerRejection HttpCircuitBreakerPermit × HttpCircuitBreakerController :=
  if controller.backendLimitFor (trim backend) = 0 ∨ trim backend = "" then
    (.ok (untracked (trim backend)), controller)
  else
    controller.acquireLimited (trim backend) (controller.backendLimitFor (trim backend))

end HttpCircuitBreakerController

open HttpCircuitBreakerController

/-! ## Limits are set and looked up -/

variable (controller : HttpCircuitBreakerController)

theorem backendLimitFor_setBackendLimit (backend : String) (limit : ℕ) :
    (controller.setBackendLimit backend limit).backendLimitFor backend = limit := by
  show ((controller.perBackendLimits.insert backend limit) backend).getD _ = limit
  rw [Table.insert_apply, if_pos rfl, Option.getD_some]

theorem backendLimitFor_tryAcquireBackend (backend name : String) :
    (controller.tryAcquireBackend backend).2.backendLimitFor name
      = controller.backendLimitFor name := by
  rw [tryAcquireBackend]
  split
  · rfl
  · rw [acquireLimited]
    split <;> rfl

end CircuitBreaker
end NantianGateway.Observability
