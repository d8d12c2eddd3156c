import Mathlib.Algebra.Ring.Nat
import NantianGateway.Lib.Machines
import NantianGateway.Observability.RateLimit

/-!
# The retry budget

`retry_budget.rs`: every request that may be retried brings a fraction of a token, up to a capacity,
and every retry takes a whole one.  Each operation runs under one lock, so an interleaving of
callers is a sequence of calls.  The log notes the answers, and with a refill the part of it that
the capacity left no room for.
-/

namespace NantianGateway.Observability

def retryBudgetTokenScale : ℕ := 1000

structure RetryBudgetOptions where
  enabled : Bool
  ratioPercent : UInt32
  burst : UInt32

structure RetryBudgetState where
  availableMilliTokens : ℕ
  retryableRequestsObservedTotal : ℕ := 0
  retryAllowedTotal : ℕ := 0
  retryRejectedTotal : ℕ := 0
  deriving DecidableEq

variable (options : RetryBudgetOptions)

def retryBudgetRefill : ℕ :=
  min options.ratioPercent.toNat 100 * retryBudgetTokenScale / 100

def retryBudgetCapacity : ℕ :=
  max options.burst.toNat 1 * retryBudgetTokenScale

namespace RetryBudgetState

variable (options : RetryBudgetOptions) (state : RetryBudgetState)

def new : RetryBudgetState where
  availableMilliTokens := if options.enabled then retryBudgetCapacity options else 0

def observeRetryableRequest : RetryBudgetState :=
  if options.enabled then
    { state with
      retryableRequestsObservedTotal := saturatingAdd state.retryableRequestsObservedTotal 1
      availableMilliTokens :=
        min (saturatingAdd state.availableMilliTokens (retryBudgetRefill options))
          (retryBudgetCapacity options) }
  else state

def tryAcquireRetry : RetryBudgetState × Bool :=
  if !options.enabled then (state, true)
  else if state.availableMilliTokens < retryBudgetTokenScale then
    ({ state with retryRejectedTotal := saturatingAdd state.retryRejectedTotal 1 }, false)
  else
    ({ state with
        availableMilliTokens := state.availableMilliTokens - retryBudgetTokenScale
        retryAllowedTotal := saturatingAdd state.retryAllowedTotal 1 }, true)

end RetryBudgetState

inductive RetryCall where
  | observe
  | acquire
  deriving DecidableEq

inductive RetryEntry where
  | refilled (spilled : ℕ)
  | answered (allowed : Bool)
  deriving DecidableEq

def RetryEntry.spilled : RetryEntry → ℕ
  | .refilled spilled => spilled
  | .answered _ => 0

def retryBudgetController : Machine RetryBudgetState RetryCall RetryEntry where
  step state
    | .observe => state.observeRetryableRequest options
    | .acquire => (state.tryAcquireRetry options).1
  emit state
    | .observe => some (.refilled
        (state.availableMilliTokens + retryBudgetRefill options - retryBudgetCapacity options))
    | .acquire => some (.answered (state.tryAcquireRetry options).2)

section Steps

variable {options : RetryBudgetOptions} {state : RetryBudgetState}

theorem saturatingAdd_retryBudgetRefill
    (hroom : state.availableMilliTokens ≤ retryBudgetCapacity options) :
    saturatingAdd state.availableMilliTokens (retryBudgetRefill options)
      = state.availableMilliTokens + retryBudgetRefill options := by
  have hburst := options.burst.toNat_lt
  unfold retryBudgetCapacity retryBudgetTokenScale at hroom
  unfold saturatingAdd retryBudgetRefill retryBudgetTokenScale u64Max
  omega

theorem availableMilliTokens_tryAcquireRetry (hon : options.enabled = true) :
    (state.tryAcquireRetry options).1.availableMilliTokens
        + (if (state.tryAcquireRetry options).2 then retryBudgetTokenScale else 0)
      = state.availableMilliTokens := by
  rw [RetryBudgetState.tryAcquireRetry, hon, Bool.not_true, if_neg Bool.false_ne_true]
  by_cases hshort : state.availableMilliTokens < retryBudgetTokenScale
  · rw [if_pos hshort]
    rfl
  · rw [if_neg hshort]
    exact Nat.sub_add_cancel (not_lt.mp hshort)

theorem enabled_account (hon : options.enabled = true) (calls : List RetryCall) :
    ((retryBudgetController options).run (.new options) calls).availableMilliTokens
      ≤ retryBudgetCapacity options ∧
    ((retryBudgetController options).run (.new options) calls).availableMilliTokens
        + ((retryBudgetController options).log (.new options) calls).count (.answered true) * 1000
        + (((retryBudgetController options).log (.new options) calls).map RetryEntry.spilled).sum
      = retryBudgetCapacity options + calls.count .observe * retryBudgetRefill options := by
  induction calls using List.reverseRecOn with
  | nil => simp [RetryBudgetState.new, hon]
  | append_singleton calls call ih =>
    obtain ⟨hroom, haccount⟩ := ih
    rw [Machine.run_concat, Machine.log_concat]
    generalize (retryBudgetController options).run (.new options) calls = state at *
    generalize (retryBudgetController options).log (.new options) calls = log at *
    cases call with
    | observe =>
      simp only [retryBudgetController, RetryBudgetState.observeRetryableRequest, hon, if_true,
        saturatingAdd_retryBudgetRefill hroom, Option.toList_some, List.singleton_append,
        List.count_cons_of_ne, ne_eq, reduceCtorEq, not_false_eq_true, List.map_cons, List.sum_cons,
        RetryEntry.spilled, List.count_append, List.count_singleton_self, Nat.add_mul, Nat.one_mul]
      omega
    | acquire =>
      have htaken := @availableMilliTokens_tryAcquireRetry _ state hon
      simp only [retryBudgetController, Option.toList_some, List.singleton_append, List.map_cons,
        List.sum_cons, RetryEntry.spilled, List.count_append, List.count_cons, List.count_nil]
      cases hanswer : (state.tryAcquireRetry options).2 <;>
        simp [hanswer, retryBudgetTokenScale] at htaken ⊢ <;> omega

theorem disabled_account (hdisabled : options.enabled = false) (calls : List RetryCall) :
    (retryBudgetController options).run (.new options) calls = .new options ∧
    ((retryBudgetController options).log (.new options) calls).count (.answered true)
      = calls.count .acquire := by
  induction calls using List.reverseRecOn with
  | nil => exact ⟨rfl, rfl⟩
  | append_singleton calls call ih =>
    obtain ⟨hstate, hcount⟩ := ih
    rw [Machine.run_concat, Machine.log_concat, hstate, List.count_append, List.count_append,
      hcount, add_comm]
    cases call <;>
      simp [retryBudgetController, RetryBudgetState.observeRetryableRequest,
        RetryBudgetState.tryAcquireRetry, hdisabled]

end Steps

/-- **The account of a budget.**  It holds at most its capacity; and what it holds, what the retries
took and what did not fit are what it began with and what the requests brought. -/
theorem retry_budget_accounted (options : RetryBudgetOptions) (calls : List RetryCall) :
    let state := (retryBudgetController options).run (.new options) calls
    let log := (retryBudgetController options).log (.new options) calls
    let allowed := log.count (.answered true)
    let credit := calls.count .observe * retryBudgetRefill options
    state.availableMilliTokens ≤ retryBudgetCapacity options ∧
    if options.enabled then
      state.availableMilliTokens + allowed * 1000 + (log.map RetryEntry.spilled).sum
        = retryBudgetCapacity options + credit ∧
      allowed * 1000 ≤ max options.burst.toNat 1 * 1000 + credit
    else allowed = calls.count .acquire := by
  intro state log allowed credit
  cases hon : options.enabled with
  | false =>
    obtain ⟨hstate, hcount⟩ := disabled_account hon calls
    refine ⟨?_, hcount⟩
    rw [show state = .new options from hstate, RetryBudgetState.new, hon]
    exact Nat.zero_le _
  | true =>
    obtain ⟨hroom, haccount⟩ := enabled_account hon calls
    exact ⟨hroom, haccount, (Nat.le_add_left _ _).trans ((Nat.le_add_right _ _).trans_eq haccount)⟩

/-- Without burst the budget allows a retry before any request was observed. -/
theorem retry_allowed_without_burst :
    ((retryBudgetController ⟨true, 20, 0⟩).log (.new ⟨true, 20, 0⟩) [.acquire]).count
      (.answered true) * 1000 > (0 : UInt32).toNat * 1000 + [RetryCall.acquire].count .observe
        * retryBudgetRefill ⟨true, 20, 0⟩ := by
  decide

end NantianGateway.Observability
