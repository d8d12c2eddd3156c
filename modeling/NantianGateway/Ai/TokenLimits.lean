import NantianGateway.Lib.SlidingLog
import NantianGateway.Observability.RateLimit

/-!
# Token and request limits

`TokenRateLimiter` limits, for each key, the requests of a minute and the tokens of a minute and
of an hour.  `check` is asked before a request is sent, and `record_usage` is told afterwards how
many tokens it took.  A window is a queue of what happened, with the totals of the tokens in it.
-/

namespace NantianGateway.Ai

open Observability (saturatingAdd u64Max)
open SlidingLog

/-! ## The source -/

inductive RateLimitResult where
  | allowed (remaining : ℕ)
  | limited (retryAfterSecs : ℕ)
  deriving DecidableEq

def RateLimitResult.isAllowed : RateLimitResult → Bool
  | allowed _ => true
  | limited _ => false

/-- A number times the burst factor, as the floating-point unit computes it.  The factor is at least
one, so only zero becomes zero. -/
structure BurstFactor where
  scale : ℕ → ℕ
  scale_eq_zero_iff : ∀ n, scale n = 0 ↔ n = 0

/-- The factor `1.0`, for numbers that a float can hold. -/
def BurstFactor.one : BurstFactor := ⟨id, fun _ => Iff.rfl⟩

structure RateLimitConfig where
  tokensPerMinute : ℕ := 0
  tokensPerHour : ℕ := 0
  requestsPerMinute : ℕ := 0
  scope : String := "apiKey"
  burst : BurstFactor := BurstFactor.one
  onLimit : String := "reject"

namespace RateLimitConfig

variable (config : RateLimitConfig)

def minuteReqLimit : ℕ := config.burst.scale config.requestsPerMinute

def minuteTokenLimit : ℕ := config.burst.scale config.tokensPerMinute

def hourTokenLimit : ℕ := config.burst.scale config.tokensPerHour

end RateLimitConfig

/-- The queues have their front at the head. -/
structure SlidingWindow where
  minuteReqLimit : ℕ
  minuteTokenLimit : ℕ
  hourTokenLimit : ℕ
  requests : List Instant := []
  minuteTokens : List (Instant × ℕ) := []
  hourTokens : List (Instant × ℕ) := []
  minuteTokenTotal : ℕ := 0
  hourTokenTotal : ℕ := 0

def minEnabledRemaining (values : List (Option ℕ)) : ℕ := (values.filterMap id).min?.getD u64Max

def minuteWindow : Duration := 60 * 10 ^ 9

def hourWindow : Duration := 3600 * 10 ^ 9

def pruneTokenWindow (now : Instant) (window : Duration) (tokens : List (Instant × ℕ))
    (total : ℕ) : List (Instant × ℕ) × ℕ :=
  pruneTotal Prod.fst Prod.snd window now tokens total

namespace SlidingWindow

def new (config : RateLimitConfig) : SlidingWindow where
  minuteReqLimit := config.minuteReqLimit
  minuteTokenLimit := config.minuteTokenLimit
  hourTokenLimit := config.hourTokenLimit

variable (w : SlidingWindow) (now : Instant)

def prune : SlidingWindow :=
  let minute := pruneTokenWindow now minuteWindow w.minuteTokens w.minuteTokenTotal
  let hour := pruneTokenWindow now hourWindow w.hourTokens w.hourTokenTotal
  { w with
    requests := SlidingLog.prune id minuteWindow now w.requests
    minuteTokens := minute.1
    minuteTokenTotal := minute.2
    hourTokens := hour.1
    hourTokenTotal := hour.2 }

def left (limit used : ℕ) : Option ℕ := if 0 < limit then some (limit - used) else none

def check : RateLimitResult × SlidingWindow :=
  let w := w.prune now
  if 0 < w.minuteTokenLimit ∧ w.minuteTokenLimit ≤ w.minuteTokenTotal then (.limited 1, w)
  else if 0 < w.hourTokenLimit ∧ w.hourTokenLimit ≤ w.hourTokenTotal then (.limited 1, w)
  else if 0 < w.minuteReqLimit ∧ w.minuteReqLimit ≤ w.requests.length then
    let oldest := w.requests.head?.getD now
    (.limited (max ((minuteWindow - (now - oldest)) / 10 ^ 9) 1), w)
  else
    let pushed := { w with requests := w.requests ++ [now] }
    (.allowed (minEnabledRemaining
      [left w.minuteTokenLimit w.minuteTokenTotal, left w.hourTokenLimit w.hourTokenTotal,
        left w.minuteReqLimit pushed.requests.length]), pushed)

def recordTokens (tokens : ℕ) : RateLimitResult × SlidingWindow :=
  let w := w.prune now
  let projectedMinuteTotal := saturatingAdd w.minuteTokenTotal tokens
  let projectedHourTotal := saturatingAdd w.hourTokenTotal tokens
  if 0 < w.hourTokenLimit ∧ w.hourTokenLimit < projectedHourTotal then (.limited 1, w)
  else if 0 < w.minuteTokenLimit ∧ w.minuteTokenLimit < projectedMinuteTotal then (.limited 1, w)
  else
    let w := if 0 < w.minuteTokenLimit then
        { w with minuteTokens := w.minuteTokens ++ [(now, tokens)],
                 minuteTokenTotal := projectedMinuteTotal }
      else w
    let w := if 0 < w.hourTokenLimit then
        { w with hourTokens := w.hourTokens ++ [(now, tokens)],
                 hourTokenTotal := projectedHourTotal }
      else w
    (.allowed (minEnabledRemaining
      [left w.minuteTokenLimit w.minuteTokenTotal, left w.hourTokenLimit w.hourTokenTotal]), w)

end SlidingWindow

structure TokenRateLimiter where
  windows : Table String SlidingWindow
  config : RateLimitConfig

namespace TokenRateLimiter

def new (config : RateLimitConfig) : TokenRateLimiter := ⟨Table.empty, config⟩

variable (limiter : TokenRateLimiter) (now : Instant) (key : String)

def entry : SlidingWindow := (limiter.windows key).getD (SlidingWindow.new limiter.config)

def check : RateLimitResult × TokenRateLimiter :=
  if limiter.config.tokensPerMinute = 0 ∧ limiter.config.tokensPerHour = 0
      ∧ limiter.config.requestsPerMinute = 0 then
    (.allowed u64Max, limiter)
  else
    let answer := (limiter.entry key).check now
    (answer.1, { limiter with windows := limiter.windows.insert key answer.2 })

def recordUsage (totalTokens : ℕ) : RateLimitResult × TokenRateLimiter :=
  if limiter.config.tokensPerMinute = 0 ∧ limiter.config.tokensPerHour = 0 then
    (.allowed u64Max, limiter)
  else
    let answer := (limiter.entry key).recordTokens now totalTokens
    (answer.1, { limiter with windows := limiter.windows.insert key answer.2 })

end TokenRateLimiter

/-! ## What a call does to a window -/

namespace SlidingWindow

variable (w : SlidingWindow) (now : Instant)

/-- One of the limits of a window is reached. -/
def Reached : Prop :=
  (0 < w.minuteTokenLimit ∧ w.minuteTokenLimit ≤ w.minuteTokenTotal)
    ∨ (0 < w.hourTokenLimit ∧ w.hourTokenLimit ≤ w.hourTokenTotal)
    ∨ (0 < w.minuteReqLimit ∧ w.minuteReqLimit ≤ w.requests.length)

theorem check_cases : (∃ secs, w.check now = (.limited secs, w.prune now) ∧ (w.prune now).Reached)
      ∨ ∃ remaining, w.check now = (.allowed remaining,
            { w.prune now with requests := (w.prune now).requests ++ [now] })
          ∧ ¬ (w.prune now).Reached := by
  unfold check
  dsimp only
  split_ifs with hminute hhour hrequests
  · exact Or.inl ⟨_, rfl, Or.inl hminute⟩
  · exact Or.inl ⟨_, rfl, Or.inr (Or.inl hhour)⟩
  · exact Or.inl ⟨_, rfl, Or.inr (Or.inr hrequests)⟩
  · refine Or.inr ⟨_, rfl, ?_⟩
    rintro (h | h | h)
    · exact hminute h
    · exact hhour h
    · exact hrequests h

structure Recorded (w' : SlidingWindow) (tokens : ℕ) : Prop where
  minuteReqLimit : w'.minuteReqLimit = w.minuteReqLimit
  minuteTokenLimit : w'.minuteTokenLimit = w.minuteTokenLimit
  hourTokenLimit : w'.hourTokenLimit = w.hourTokenLimit
  requests : w'.requests = w.requests
  minute : 0 < w.minuteTokenLimit → w'.minuteTokens = w.minuteTokens ++ [(now, tokens)]
      ∧ w'.minuteTokenTotal = saturatingAdd w.minuteTokenTotal tokens
      ∧ w'.minuteTokenTotal ≤ w.minuteTokenLimit
  hour : 0 < w.hourTokenLimit → w'.hourTokens = w.hourTokens ++ [(now, tokens)]
      ∧ w'.hourTokenTotal = saturatingAdd w.hourTokenTotal tokens
      ∧ w'.hourTokenTotal ≤ w.hourTokenLimit

theorem recordTokens_cases (tokens : ℕ) :
    (∃ secs, w.recordTokens now tokens = (.limited secs, w.prune now))
      ∨ ∃ remaining w', w.recordTokens now tokens = (.allowed remaining, w')
          ∧ (w.prune now).Recorded now w' tokens := by
  unfold recordTokens
  dsimp only
  generalize w.prune now = p
  by_cases hhour : 0 < p.hourTokenLimit ∧ p.hourTokenLimit < saturatingAdd p.hourTokenTotal tokens
  · rw [if_pos hhour]
    exact Or.inl ⟨_, rfl⟩
  rw [if_neg hhour]
  by_cases hminute : 0 < p.minuteTokenLimit
      ∧ p.minuteTokenLimit < saturatingAdd p.minuteTokenTotal tokens
  · rw [if_pos hminute]
    exact Or.inl ⟨_, rfl⟩
  rw [if_neg hminute]
  refine Or.inr ⟨_, _, rfl, ?_⟩
  rw [not_and, Nat.not_lt] at hhour hminute
  by_cases hm : 0 < p.minuteTokenLimit
  · by_cases hh : 0 < p.hourTokenLimit
    · simp only [hm, hh, if_true]
      exact ⟨rfl, rfl, rfl, rfl, fun _ => ⟨rfl, rfl, hminute hm⟩, fun _ => ⟨rfl, rfl, hhour hh⟩⟩
    · simp only [hm, hh, if_true, if_false]
      exact ⟨rfl, rfl, rfl, rfl, fun _ => ⟨rfl, rfl, hminute hm⟩, fun h => (hh h).elim⟩
  · by_cases hh : 0 < p.hourTokenLimit
    · simp only [hm, hh, if_true, if_false]
      exact ⟨rfl, rfl, rfl, rfl, fun h => (hm h).elim, fun _ => ⟨rfl, rfl, hhour hh⟩⟩
    · simp only [hm, hh, if_false]
      exact ⟨rfl, rfl, rfl, rfl, fun h => (hm h).elim, fun h => (hh h).elim⟩

/-- Another report would bring a total above its limit. -/
def Overshoots (tokens : ℕ) : Prop :=
  (0 < w.hourTokenLimit ∧ w.hourTokenLimit < saturatingAdd w.hourTokenTotal tokens)
    ∨ (0 < w.minuteTokenLimit ∧ w.minuteTokenLimit < saturatingAdd w.minuteTokenTotal tokens)

theorem isAllowed_recordTokens (tokens : ℕ) :
    (w.recordTokens now tokens).1.isAllowed = true ↔ ¬ (w.prune now).Overshoots tokens := by
  unfold recordTokens Overshoots
  dsimp only
  generalize w.prune now = p
  split
  · next hhour => exact iff_of_false Bool.false_ne_true fun h => h (Or.inl hhour)
  · next hhour =>
    split
    · next hminute => exact iff_of_false Bool.false_ne_true fun h => h (Or.inr hminute)
    · next hminute => exact iff_of_true rfl (not_or.mpr ⟨hhour, hminute⟩)

end SlidingWindow

theorem SlidingWindow.isAllowed_check (w : SlidingWindow) (now : Instant) :
    (w.check now).1.isAllowed = true ↔ ¬ (w.prune now).Reached := by
  rcases w.check_cases now with ⟨secs, hcheck, hreached⟩ | ⟨remaining, hcheck, hreached⟩
  · rw [hcheck]
    exact ⟨fun h => absurd h Bool.false_ne_true, fun h => absurd hreached h⟩
  · rw [hcheck]
    exact ⟨fun _ => hreached, fun _ => rfl⟩

theorem TokenRateLimiter.isAllowed_check (limiter : TokenRateLimiter) (now : Instant)
    (key : String) : (limiter.check now key).1.isAllowed = true
      ↔ (limiter.config.tokensPerMinute = 0 ∧ limiter.config.tokensPerHour = 0
          ∧ limiter.config.requestsPerMinute = 0) ∨ ¬ ((limiter.entry key).prune now).Reached := by
  rw [check]
  split
  · rename_i hunlimited
    exact ⟨fun _ => Or.inl hunlimited, fun _ => rfl⟩
  · rename_i hlimited
    rw [SlidingWindow.isAllowed_check]
    exact ⟨Or.inr, fun h => h.resolve_left hlimited⟩

theorem TokenRateLimiter.isAllowed_recordUsage (limiter : TokenRateLimiter) (now : Instant)
    (key : String) (tokens : ℕ) : (limiter.recordUsage now key tokens).1.isAllowed = true
      ↔ (limiter.config.tokensPerMinute = 0 ∧ limiter.config.tokensPerHour = 0)
        ∨ ¬ ((limiter.entry key).prune now).Overshoots tokens := by
  rw [recordUsage]
  split
  · next hunlimited => exact ⟨fun _ => Or.inl hunlimited, fun _ => rfl⟩
  · next hlimited =>
    rw [SlidingWindow.isAllowed_recordTokens]
    exact ⟨Or.inr, fun h => h.resolve_left hlimited⟩

end NantianGateway.Ai
