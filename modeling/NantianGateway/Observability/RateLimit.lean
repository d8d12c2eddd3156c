import Mathlib.Algebra.BigOperators.Group.List.Basic
import NantianGateway.Ir.Types

/-!
# Token buckets

`rate_limit/bucket.rs`: a bucket holds thousandths of tokens, and every operation first credits the
time since the last one, in whole milliseconds and up to the capacity.  The stamp of the last refill
can also move *back*: a caller reads the clock before it takes the lock.
-/

namespace NantianGateway.Observability

open List Nat

/-! ## Machine arithmetic -/

def u64Max : ℕ := 2 ^ 64 - 1

def saturatingMul (a b : ℕ) : ℕ := min (a * b) u64Max

def saturatingAdd (a b : ℕ) : ℕ := min (a + b) u64Max

def asMillis (elapsed : Duration) : ℕ := elapsed / 10 ^ 6

theorem asMillis_add_le {a b c : ℕ} (hab : a ≤ b) (hbc : b ≤ c) :
    asMillis (b - a) + asMillis (c - b) ≤ asMillis (c - a) := by
  simp only [asMillis]
  omega

/-! ## Options -/

def rateLimitTokenScale : ℕ := 1000

structure ScopeOptions where
  requestsPerSecond : UInt32 := 0
  /-- The field `burst`; what counts is the method `burst`. -/
  configuredBurst : UInt32 := 0
  deriving DecidableEq

namespace ScopeOptions

variable (options : ScopeOptions)

def enabled : Bool := 0 < options.requestsPerSecond

def burst : ℕ := if options.enabled then max options.configuredBurst.toNat 1 else 0

def capacity : ℕ := if options.enabled then options.burst * rateLimitTokenScale else 0

def rate : ℕ := options.requestsPerSecond.toNat

def refill (elapsed : Duration) : ℕ :=
  if options.enabled then
    saturatingMul (saturatingMul (min (asMillis elapsed) u64Max) options.rate) rateLimitTokenScale
      / 1000
  else 0

theorem capacity_eq : options.capacity = options.burst * rateLimitTokenScale := by
  rw [capacity, burst]
  split
  · rfl
  · rw [Nat.zero_mul]

theorem burst_lt : options.burst < 2 ^ 32 := by
  rw [burst]
  split
  · exact max_lt options.configuredBurst.toNat_lt (by decide)
  · decide

theorem capacity_lt : options.capacity < 2 ^ 42 := by
  have hburst := options.burst_lt
  rw [capacity_eq, rateLimitTokenScale]
  omega

theorem refill_le (elapsed : Duration) :
    options.refill elapsed ≤ options.rate * asMillis elapsed := by
  rw [refill]
  split
  · have hinner : saturatingMul (min (asMillis elapsed) u64Max) options.rate
        ≤ options.rate * asMillis elapsed := by
      rw [saturatingMul, mul_comm options.rate]
      exact (min_le_left _ _).trans (mul_le_mul_right _ (min_le_left _ _))
    calc saturatingMul _ rateLimitTokenScale / 1000
        ≤ (saturatingMul (min (asMillis elapsed) u64Max) options.rate * 1000) / 1000 :=
          Nat.div_le_div_right (min_le_left _ _)
      _ = saturatingMul (min (asMillis elapsed) u64Max) options.rate :=
          Nat.mul_div_cancel _ (by decide)
      _ ≤ options.rate * asMillis elapsed := hinner
  · exact Nat.zero_le _

theorem refill_eq_of_lt (hon : options.enabled) {elapsed : Duration}
    (h : options.refill elapsed < options.capacity) :
    options.refill elapsed = options.rate * asMillis elapsed := by
  have hcapacity := options.capacity_lt
  have hrate : 1 ≤ options.rate := by
    have hpos : 0 < options.requestsPerSecond := by simpa [enabled] using hon
    exact UInt32.lt_iff_toNat_lt.mp hpos
  rw [refill, if_pos hon, saturatingMul, saturatingMul, rateLimitTokenScale, u64Max] at h ⊢
  rw [mul_comm options.rate]
  have hmillis : min (asMillis elapsed) (2 ^ 64 - 1) ≤
      min (asMillis elapsed) (2 ^ 64 - 1) * options.rate := Nat.le_mul_of_pos_right _ hrate
  generalize hproduct : min (asMillis elapsed) (2 ^ 64 - 1) * options.rate = product at h hmillis ⊢
  have hsmall : min (asMillis elapsed) (2 ^ 64 - 1) = asMillis elapsed := by omega
  rw [hsmall] at hproduct
  omega

end ScopeOptions

/-! ## Buckets -/

/-- A bucket of a scope; it never holds more than the capacity of the scope. -/
@[ext] structure RateLimitBucket (options : ScopeOptions) where
  availableMilliTokens : ℕ
  lastRefill : Instant
  available_le : availableMilliTokens ≤ options.capacity
  deriving DecidableEq

section

variable {options : ScopeOptions}

def newBucket (options : ScopeOptions) (now : Instant) : RateLimitBucket options :=
  ⟨options.capacity, now, le_rfl⟩

section

variable (state : RateLimitBucket options) (now : Instant)

def refilledTokens : ℕ :=
  if options.enabled then
    let refill := options.refill (now - state.lastRefill)
    if 0 < refill then min (saturatingAdd state.availableMilliTokens refill) options.capacity
    else state.availableMilliTokens
  else 0

theorem refilledTokens_le : refilledTokens state now ≤ options.capacity := by
  rw [refilledTokens]
  split
  · simp only
    split
    · exact min_le_right _ _
    · exact state.available_le
  · exact zero_le _

/-- `refill_bucket`; `Instant::saturating_duration_since` is the difference of natural
numbers. -/
def refillBucket : RateLimitBucket options :=
  ⟨refilledTokens state now, now, refilledTokens_le state now⟩

def tryConsumeBucket : Bool × RateLimitBucket options :=
  let state := refillBucket state now
  if state.availableMilliTokens < rateLimitTokenScale then (false, state)
  else
    (true, { state with
      availableMilliTokens := state.availableMilliTokens - rateLimitTokenScale
      available_le := (sub_le _ _).trans state.available_le })

def refundBucket : RateLimitBucket options :=
  let state := refillBucket state now
  { state with
    availableMilliTokens :=
      min (saturatingAdd state.availableMilliTokens rateLimitTokenScale) options.capacity
    available_le := min_le_right _ _ }

end

inductive BucketOp where
  | tryConsume
  | refund
  | snapshot
  deriving DecidableEq

def BucketOp.apply (op : BucketOp) (state : RateLimitBucket options) (now : Instant) :
    RateLimitBucket options :=
  match op with
  | .tryConsume => (tryConsumeBucket state now).2
  | .refund => refundBucket state now
  | .snapshot => refillBucket state now

/-! ### One operation -/

variable (state : RateLimitBucket options)

@[simp] theorem lastRefill_tryConsume (now : Instant) :
    (tryConsumeBucket state now).2.lastRefill = now := by
  rw [tryConsumeBucket]
  split <;> rfl

@[simp] theorem lastRefill_apply (op : BucketOp) (state : RateLimitBucket options)
    (now : Instant) : (op.apply state now).lastRefill = now := by
  cases op with
  | tryConsume => exact lastRefill_tryConsume state now
  | refund => rfl
  | snapshot => rfl

theorem available_refillBucket_le (now : Instant) : (refillBucket state now).availableMilliTokens
      ≤ state.availableMilliTokens + options.rate * asMillis (now - state.lastRefill) := by
  have hrefill := options.refill_le (now - state.lastRefill)
  show refilledTokens state now ≤ _
  rw [refilledTokens]
  split
  · simp only
    split
    · exact (min_le_left _ _).trans ((min_le_left _ _).trans (Nat.add_le_add_left hrefill _))
    · exact Nat.le_add_right _ _
  · exact Nat.zero_le _

theorem available_refillBucket_eq {state : RateLimitBucket options} {now : Instant}
    (h : (refillBucket state now).availableMilliTokens < options.capacity) :
    (refillBucket state now).availableMilliTokens
      = state.availableMilliTokens + options.rate * asMillis (now - state.lastRefill) := by
  have hon : options.enabled = true := by
    by_contra hdisabled
    rw [ScopeOptions.capacity, if_neg hdisabled] at h
    exact not_lt_zero _ h
  have hcapacity := options.capacity_lt
  have hlast : refilledTokens state now < options.capacity := h
  show refilledTokens state now = _
  simp only [refilledTokens, if_pos hon] at hlast ⊢
  split at hlast
  · rename_i hpos
    rw [saturatingAdd, u64Max] at hlast
    have hsum : state.availableMilliTokens + options.refill (now - state.lastRefill)
        < options.capacity := by omega
    rw [if_pos hpos, ← options.refill_eq_of_lt hon (by omega), saturatingAdd, u64Max]
    omega
  · rename_i hzero
    have hrefill : options.refill (now - state.lastRefill) = 0 := Nat.eq_zero_of_not_pos hzero
    rw [if_neg hzero, ← options.refill_eq_of_lt hon (by omega), hrefill]
    rfl

theorem available_tryConsume (now : Instant) : (tryConsumeBucket state now).2.availableMilliTokens
        + rateLimitTokenScale * (tryConsumeBucket state now).1.toNat
      = (refillBucket state now).availableMilliTokens := by
  rw [tryConsumeBucket]
  split
  · rfl
  · rename_i hle
    exact Nat.sub_add_cancel (Nat.le_of_not_lt hle)

end

/-! ## The upper bound -/

section

variable {options : ScopeOptions}

def admitted (state : RateLimitBucket options) : List Instant → List Instant
  | [] => []
  | now :: stamps =>
    let (taken, state) := tryConsumeBucket state now
    if taken then now :: admitted state stamps else admitted state stamps

def admittedIn (state : RateLimitBucket options) (stamps : List Instant) (first last : Instant) :
    List Instant :=
  (admitted state stamps).filter fun now => first ≤ now ∧ now ≤ last

variable {state : RateLimitBucket options} {stamps : List Instant} {first last : Instant}

theorem mem_of_mem_admitted {now : Instant} (h : now ∈ admitted state stamps) : now ∈ stamps := by
  induction stamps generalizing state with
  | nil => exact h
  | cons stamp stamps ih =>
    simp only [admitted] at h
    split at h
    · rcases mem_cons.mp h with rfl | h
      · exact mem_cons_self
      · exact mem_cons_of_mem _ (ih h)
    · exact mem_cons_of_mem _ (ih h)

theorem length_admittedIn_cons (state : RateLimitBucket options) (now : Instant)
    (stamps : List Instant) (first last : Instant) :
    (admittedIn state (now :: stamps) first last).length
      = (if first ≤ now ∧ now ≤ last then (tryConsumeBucket state now).1.toNat else 0)
        + (admittedIn (tryConsumeBucket state now).2 stamps first last).length := by
  rw [admittedIn, admittedIn, admitted]
  cases htaken : (tryConsumeBucket state now).1 with
  | false => simp [htaken]
  | true =>
    by_cases hwindow : first ≤ now ∧ now ≤ last
    · simp [htaken, hwindow, add_comm]
    · simp [htaken, hwindow]

theorem admittedIn_eq_nil (h : ∀ now ∈ stamps, last < now) :
    admittedIn state stamps first last = [] := by
  rw [admittedIn, filter_eq_nil_iff]
  intro now hnow hwindow
  exact absurd (of_decide_eq_true hwindow).2 (not_le.mpr (h now (mem_of_mem_admitted hnow)))

/-- **The account of a run**: the tokens taken up to a time are tokens the bucket held or was
credited. -/
theorem admitted_le (hsorted : stamps.Pairwise (· ≤ ·))
    (hst : ∀ now ∈ stamps, state.lastRefill ≤ now) :
    rateLimitTokenScale * (admittedIn state stamps first last).length
      ≤ state.availableMilliTokens + options.rate * asMillis (last - state.lastRefill) := by
  induction stamps generalizing state with
  | nil => exact zero_le _
  | cons now stamps ih =>
    obtain ⟨hnext, hrest⟩ := pairwise_cons.mp hsorted
    by_cases hlast : now ≤ last
    · have hafter := @ih (tryConsumeBucket state now).2 hrest
        (by rw [lastRefill_tryConsume]; exact hnext)
      rw [lastRefill_tryConsume] at hafter
      have htaken := available_tryConsume state now
      have hrefill := available_refillBucket_le state now
      have hhead : (if first ≤ now ∧ now ≤ last then (tryConsumeBucket state now).1.toNat else 0)
          ≤ (tryConsumeBucket state now).1.toNat := by
        split
        · exact le_rfl
        · exact zero_le _
      have hcredit := mul_le_mul_left options.rate (asMillis_add_le (hst now mem_cons_self) hlast)
      rw [Nat.mul_add] at hcredit
      rw [length_admittedIn_cons, Nat.mul_add]
      have hscaled := Nat.mul_le_mul_left rateLimitTokenScale hhead
      omega
    · have hlate : ∀ stamp ∈ now :: stamps, last < stamp := by
        intro stamp hstamp
        rcases mem_cons.mp hstamp with rfl | hstamp
        · exact Nat.lt_of_not_le hlast
        · exact (Nat.lt_of_not_le hlast).trans_le (hnext stamp hstamp)
      rw [admittedIn_eq_nil hlate]
      exact Nat.zero_le _

theorem admittedIn_le_capacity (hsorted : stamps.Pairwise (· ≤ ·)) :
    rateLimitTokenScale * (admittedIn state stamps first last).length
      ≤ options.capacity + options.rate * asMillis (last - first) := by
  induction stamps generalizing state with
  | nil => exact zero_le _
  | cons now stamps ih =>
    obtain ⟨hnext, hrest⟩ := pairwise_cons.mp hsorted
    by_cases hwindow : first ≤ now ∧ now ≤ last
    · -- from here on the run is accounted for from its first stamp in the window
      have hafter := @admitted_le options (tryConsumeBucket state now).2 stamps first last hrest
        (by rw [lastRefill_tryConsume]; exact hnext)
      rw [lastRefill_tryConsume] at hafter
      have htaken := available_tryConsume state now
      have hfull := (refillBucket state now).available_le
      have hmillis : asMillis (last - now) ≤ asMillis (last - first) :=
        Nat.div_le_div_right (Nat.sub_le_sub_left hwindow.1 last)
      have hcredit := Nat.mul_le_mul_left options.rate hmillis
      rw [length_admittedIn_cons, if_pos hwindow, Nat.mul_add]
      omega
    · rw [length_admittedIn_cons, if_neg hwindow, Nat.zero_add]
      exact ih hrest

end

/-- **The bound on a window.**  If the stamps do not decrease in lock order, the calls admitted are
at most the burst and the rate times the window. -/
theorem rate_limit_bounded (options : ScopeOptions) (state : RateLimitBucket options)
    (stamps : List Instant) (hsorted : stamps.Pairwise (· ≤ ·)) (first : Instant) (millis : ℕ) :
    (admittedIn state stamps first (first + millis * 10 ^ 6)).length
      ≤ options.burst + (options.rate * millis + 999) / 1000 := by
  have hbound := @admittedIn_le_capacity options state stamps first (first + millis * 10 ^ 6)
    hsorted
  have hwindow : asMillis (first + millis * 10 ^ 6 - first) = millis := by
    rw [asMillis, Nat.add_sub_cancel_left, Nat.mul_div_cancel _ (by decide)]
  rw [hwindow, options.capacity_eq, rateLimitTokenScale] at hbound
  omega

def onePerSecond : ScopeOptions := ⟨1, 1⟩

theorem rate_limit_bounded_onePerSecond : [0, 10 ^ 9].Pairwise (· ≤ ·) ∧
    (admittedIn (newBucket onePerSecond 0) [0, 10 ^ 9] 0 (0 + 1000 * 10 ^ 6)).length ≤ 1 + 1 :=
  ⟨by decide, rate_limit_bounded onePerSecond (newBucket onePerSecond 0) [0, 10 ^ 9] (by decide) 0
    1000⟩

/-- **A second is credited twice**: the third call was stamped a second before the second one. -/
theorem stamp_moved_back_credits_twice :
    admittedIn (newBucket onePerSecond 0) [0, 10 ^ 9, 0, 10 ^ 9] 0 (0 + 1000 * 10 ^ 6)
      = [0, 10 ^ 9, 10 ^ 9] ∧
    onePerSecond.burst + (onePerSecond.rate * 1000 + 999) / 1000 = 2 := by
  decide +kernel

/-! ## The credit of a run -/

section

variable {options : ScopeOptions}

def credited (state : RateLimitBucket options) : List (BucketOp × Instant) → ℕ
  | [] => 0
  | (op, now) :: calls =>
    (refillBucket state now).availableMilliTokens - state.availableMilliTokens
      + credited (op.apply state now) calls

/-- No refill of the run fills the bucket. -/
def NeverFull (state : RateLimitBucket options) : List (BucketOp × Instant) → Prop
  | [] => True
  | (op, now) :: calls =>
    (refillBucket state now).availableMilliTokens < options.capacity ∧
      NeverFull (op.apply state now) calls

def wholeMillis (first : Instant) : List Instant → ℕ
  | [] => 0
  | now :: stamps => asMillis (now - first) + wholeMillis now stamps

def lostNanos (first : Instant) : List Instant → ℕ
  | [] => 0
  | now :: stamps => (now - first) % 10 ^ 6 + lostNanos now stamps

theorem credited_eq {state : RateLimitBucket options} {calls : List (BucketOp × Instant)}
    (h : NeverFull state calls) :
    credited state calls = options.rate * wholeMillis state.lastRefill (calls.map Prod.snd) := by
  induction calls generalizing state with
  | nil => rfl
  | cons call calls ih =>
    obtain ⟨op, now⟩ := call
    obtain ⟨hroom, hrest⟩ := h
    have hafter := ih hrest
    rw [lastRefill_apply] at hafter
    rw [credited, hafter, available_refillBucket_eq hroom, Nat.add_sub_cancel_left,
      map_cons, wholeMillis, Nat.mul_add]

theorem elapsed_eq {first : ℕ} {stamps : List ℕ}
    (hsorted : (first :: stamps).Pairwise (· ≤ ·)) :
    stamps.getLastD first
      = first + (10 ^ 6 * wholeMillis first stamps + lostNanos first stamps) := by
  induction stamps generalizing first with
  | nil => rfl
  | cons now stamps ih =>
    obtain ⟨hnext, hrest⟩ := pairwise_cons.mp hsorted
    have hfirst : first + (now - first) = now := Nat.add_sub_cancel' (hnext now mem_cons_self)
    have hsplit := Nat.div_add_mod (now - first) (10 ^ 6)
    rw [getLastD_cons, ih hrest, wholeMillis, lostNanos, asMillis]
    calc now + (10 ^ 6 * wholeMillis now stamps + lostNanos now stamps)
        = first + (10 ^ 6 * ((now - first) / 10 ^ 6) + (now - first) % 10 ^ 6)
          + (10 ^ 6 * wholeMillis now stamps + lostNanos now stamps) := by rw [hsplit, hfirst]
      _ = _ := by rw [Nat.mul_add]; omega

end

/-- **What closely spaced calls lose.** The credit falls at most one token short of the whole tokens
the rate gives exactly when the fractions of milliseconds in the gaps are worth at most one token
and the fraction left over. -/
theorem credited_iff (options : ScopeOptions) (state : RateLimitBucket options) (op : BucketOp)
    (first : Instant) (calls : List (BucketOp × Instant))
    (hsorted : (first :: calls.map Prod.snd).Pairwise (· ≤ ·))
    (hroom : NeverFull (op.apply state first) calls) :
    1000 * (options.rate * ((calls.map Prod.snd).getLastD first - first) / 10 ^ 9)
        ≤ credited (op.apply state first) calls + 1000 ↔
      options.rate * lostNanos first (calls.map Prod.snd)
        ≤ 10 ^ 9 + options.rate * ((calls.map Prod.snd).getLastD first - first) % 10 ^ 9 := by
  have helapsed : options.rate * ((calls.map Prod.snd).getLastD first - first)
      = 10 ^ 6 * (options.rate * wholeMillis first (calls.map Prod.snd))
        + options.rate * lostNanos first (calls.map Prod.snd) := by
    rw [elapsed_eq hsorted, Nat.add_sub_cancel_left, Nat.mul_add, Nat.mul_left_comm]
  rw [credited_eq hroom, lastRefill_apply, helapsed]
  omega

def thousandPerSecond : ScopeOptions := ⟨1000, 5⟩

def emptyBucket (options : ScopeOptions) : RateLimitBucket options := ⟨0, 0, zero_le _⟩

theorem credited_iff_whole_millis : 1000 * (thousandPerSecond.rate * (2000000 - 0) / 10 ^ 9)
      ≤ credited (BucketOp.tryConsume.apply (emptyBucket thousandPerSecond) 0)
        [(.tryConsume, 2000000)] + 1000 :=
  (credited_iff thousandPerSecond (emptyBucket thousandPerSecond) .tryConsume 0
    [(.tryConsume, 2000000)] (by decide) ⟨by decide +kernel, trivial⟩).mpr (by decide +kernel)

/-- **Calls a little less than a millisecond apart starve.**  Four milliseconds at a thousand
requests per second are worth almost four tokens; nothing is credited. -/
theorem close_calls_starve : NeverFull (BucketOp.tryConsume.apply (emptyBucket thousandPerSecond) 0)
      [(.tryConsume, 999999), (.tryConsume, 1999998), (.tryConsume, 2999997),
        (.tryConsume, 3999996)] ∧
    credited (BucketOp.tryConsume.apply (emptyBucket thousandPerSecond) 0)
      [(.tryConsume, 999999), (.tryConsume, 1999998), (.tryConsume, 2999997),
        (.tryConsume, 3999996)] = 0 ∧
    thousandPerSecond.rate * (3999996 - 0) / 10 ^ 9 - 1 = 2 :=
  ⟨⟨by decide +kernel, by decide +kernel, by decide +kernel, by decide +kernel, trivial⟩,
    by decide +kernel, by decide +kernel⟩

end NantianGateway.Observability
