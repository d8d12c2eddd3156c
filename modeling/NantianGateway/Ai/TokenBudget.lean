import Mathlib.Data.List.Induction
import NantianGateway.Ai.TokenLimits

/-!
# The token budget

The queues and totals of a window are the allowed checks and the recorded reports of the last minute
or hour (`tracks_run`), so no minute has more allowed checks than the limit.  But a report that
would bring a total above its limit is forgotten, although the tokens have been spent.

Which reports and checks these are can be computed from the calls alone: `account` goes through the
calls of a key and counts a report if the sums of the last minute and hour stay within the limits
with it, and a check if no limit is reached.  `account_eq` is that the limiter keeps this account.
-/

namespace NantianGateway.Ai

open Observability (saturatingAdd u64Max)
open SlidingLog List RateLimitResult

/-! ## Histories -/

inductive LimiterCall where
  | check
  | recordUsage (totalTokens : ℕ)

structure TimedCall where
  key : String
  time : Instant
  call : LimiterCall

def TokenRateLimiter.step (limiter : TokenRateLimiter) (c : TimedCall) :
    RateLimitResult × TokenRateLimiter :=
  match c.call with
  | .check => limiter.check c.time c.key
  | .recordUsage totalTokens => limiter.recordUsage c.time c.key totalTokens

abbrev LimiterTrace := List (TimedCall × RateLimitResult)

variable (config : RateLimitConfig) (calls : List TimedCall)

def runLimiter : LimiterTrace × TokenRateLimiter :=
  calls.foldl (fun st c => (st.1 ++ [(c, (st.2.step c).1)], (st.2.step c).2))
    ([], TokenRateLimiter.new config)

theorem runLimiter_concat (c : TimedCall) : runLimiter config (calls ++ [c])
      = ((runLimiter config calls).1 ++ [(c, ((runLimiter config calls).2.step c).1)],
          ((runLimiter config calls).2.step c).2) := by
  rw [runLimiter, foldl_append]
  rfl

variable (key : String) (e : TimedCall × RateLimitResult)

def allowedCheck : Option Instant :=
  match e.1.call with
  | .check => if e.1.key = key ∧ e.2.isAllowed then some e.1.time else none
  | .recordUsage _ => none

def report (c : TimedCall) : Option (Instant × ℕ) :=
  match c.call with
  | .check => none
  | .recordUsage totalTokens => if c.key = key then some (c.time, totalTokens) else none

variable (trace : LimiterTrace)

def allowedChecks : List Instant :=
  trace.filterMap (allowedCheck key)

/-- The reports for a key, whatever became of them. -/
def reported (key : String) (calls : List TimedCall) : List (Instant × ℕ) :=
  calls.filterMap (report key)

/-- The reports that were accepted. -/
def recorded : List (Instant × ℕ) :=
  (trace.filter fun e => e.2.isAllowed).filterMap fun e => report key e.1

variable (window : Duration) (now : Instant) (reports : List (Instant × ℕ))

def spent : ℕ :=
  ((recent Prod.fst window now reports).map Prod.snd).sum

/-! ## The queues and the history -/

/-- A queue and its total stand for the reports of a history: from now on, pruning leaves what is
recent, and its sum. -/
def Counts (queue : List (Instant × ℕ)) (total : ℕ) : Prop :=
  ∀ later, now ≤ later → pruneTokenWindow later window queue total
    = (recent Prod.fst window later reports, spent window later reports)

variable {now : Instant} {reports : List (Instant × ℕ)} {calls : List TimedCall}
  {queue : List (Instant × ℕ)}

theorem Counts.mono {window : Duration} {now' : Instant} {total : ℕ}
    (h : Counts window now reports queue total) (hle : now ≤ now') :
    Counts window now' reports queue total :=
  fun later hlater => h later (hle.trans hlater)

theorem counts_recent (now : Instant) (h : Ordered Prod.fst reports) :
    Counts window now reports (recent Prod.fst window now reports) (spent window now reports) := by
  intro later hlater
  rw [pruneTokenWindow, spent, pruneTotal_sum, prune_recent Prod.fst window hlater h, spent]

theorem counts_concat (now : Instant) (tokens : ℕ)
    (h : Ordered Prod.fst (reports ++ [(now, tokens)])) :
    Counts window now (reports ++ [(now, tokens)])
      (recent Prod.fst window now reports ++ [(now, tokens)])
      (spent window now reports + tokens) := by
  have hcounts := counts_recent window now h
  have hone : recent Prod.fst window now [(now, tokens)] = [(now, tokens)] :=
    recent_singleton Prod.fst window (now, tokens)
  rwa [spent, recent_append, hone, map_append, sum_append, map_singleton, sum_singleton] at hcounts

theorem saturatingAdd_eq_of_le {a b limit : ℕ} (hmax : limit < u64Max)
    (h : saturatingAdd a b ≤ limit) : saturatingAdd a b = a + b := by
  unfold saturatingAdd at h ⊢
  omega

theorem counts_saturatingAdd {tokens total limit : ℕ}
    (h : Ordered Prod.fst (reports ++ [(now, tokens)]))
    (hpruned : queue = recent Prod.fst window now reports ∧ total = spent window now reports)
    (hmax : limit < u64Max) (hfits : saturatingAdd total tokens ≤ limit) :
    Counts window now (reports ++ [(now, tokens)]) (queue ++ [(now, tokens)])
      (saturatingAdd total tokens) := by
  rw [saturatingAdd_eq_of_le hmax hfits, hpruned.1, hpruned.2]
  exact counts_concat window now tokens h

/-- A window stands for the history of a key, as far as its limits are enabled.  The totals of a
limit that is the largest number may be cut off. -/
structure Tracks (config : RateLimitConfig) (key : String) (trace : LimiterTrace) (now : Instant)
    (w : SlidingWindow) : Prop where
  minuteReqLimit : w.minuteReqLimit = config.minuteReqLimit
  minuteTokenLimit : w.minuteTokenLimit = config.minuteTokenLimit
  hourTokenLimit : w.hourTokenLimit = config.hourTokenLimit
  requests : 0 < config.minuteReqLimit → ∀ later, now ≤ later →
    SlidingLog.prune id minuteWindow later w.requests
      = recent id minuteWindow later (allowedChecks key trace)
  minute : 0 < config.minuteTokenLimit → config.minuteTokenLimit < u64Max →
    Counts minuteWindow now (recorded key trace) w.minuteTokens w.minuteTokenTotal
  hour : 0 < config.hourTokenLimit → config.hourTokenLimit < u64Max →
    Counts hourWindow now (recorded key trace) w.hourTokens w.hourTokenTotal

section Concat

variable (key : String) (trace : LimiterTrace) (e : TimedCall × RateLimitResult)

theorem allowedChecks_concat : allowedChecks key (trace ++ [e])
    = allowedChecks key trace ++ (allowedCheck key e).toList := by
  rw [allowedChecks, filterMap_append, allowedChecks]
  cases h : allowedCheck key e <;> simp [h]

theorem recorded_concat : recorded key (trace ++ [e])
    = recorded key trace ++ if e.2.isAllowed then (report key e.1).toList else [] := by
  rw [recorded, filter_append, filterMap_append, recorded]
  split
  · next hallowed =>
    rw [filter_cons_of_pos (by simpa using hallowed), filter_nil]
    cases h : report key e.1 <;> simp [h]
  · next hrefused => rw [filter_cons_of_neg (by simpa using hrefused), filter_nil, filterMap_nil]

end Concat

abbrev OrderedTrace : Prop := Ordered (fun e => e.1.time) trace

theorem ordered_allowedChecks {trace : LimiterTrace} (h : OrderedTrace trace) (key : String) :
    Ordered id (allowedChecks key trace) := by
  refine List.Pairwise.filterMap _ ?_ h
  intro e e' hle t ht t' ht'
  have htime (x : TimedCall × RateLimitResult) (s : Instant) (hs : allowedCheck key x = some s) :
      s = x.1.time := by
    unfold allowedCheck at hs
    split at hs
    · split at hs
      · exact (Option.some.inj hs).symm
      · exact absurd hs (by simp)
    · exact absurd hs (by simp)
  rw [htime e t ht, htime e' t' ht']
  exact hle

theorem ordered_recorded {trace : LimiterTrace} (h : OrderedTrace trace) (key : String) :
    Ordered Prod.fst (recorded key trace) := by
  refine List.Pairwise.filterMap _ ?_ (h.sublist filter_sublist)
  intro e e' hle r hr r' hr'
  have htime (x : TimedCall) (s : Instant × ℕ) (hs : report key x = some s) :
      s.1 = x.time := by
    unfold report at hs
    split at hs
    · exact absurd hs (by simp)
    · split at hs
      · rw [← Option.some.inj hs]
      · exact absurd hs (by simp)
  rw [htime e.1 r hr, htime e'.1 r' hr']
  exact hle

namespace Tracks

variable {config : RateLimitConfig} {key : String} {trace : LimiterTrace} {now t : Instant}
  {w : SlidingWindow}

section

variable (h : Tracks config key trace now w)

include h

theorem mono (hle : now ≤ t) : Tracks config key trace t w where
  minuteReqLimit := h.minuteReqLimit
  minuteTokenLimit := h.minuteTokenLimit
  hourTokenLimit := h.hourTokenLimit
  requests hlimit later hlater := h.requests hlimit later (hle.trans hlater)
  minute hlimit hmax := (h.minute hlimit hmax).mono hle
  hour hlimit hmax := (h.hour hlimit hmax).mono hle

theorem congr {trace' : LimiterTrace} (hchecks : allowedChecks key trace' = allowedChecks key trace)
    (hrecords : recorded key trace' = recorded key trace) : Tracks config key trace' now w where
  minuteReqLimit := h.minuteReqLimit
  minuteTokenLimit := h.minuteTokenLimit
  hourTokenLimit := h.hourTokenLimit
  requests hlimit := by rw [hchecks]; exact h.requests hlimit
  minute hlimit hmax := by rw [hrecords]; exact h.minute hlimit hmax
  hour hlimit hmax := by rw [hrecords]; exact h.hour hlimit hmax

theorem pruned_requests (hle : now ≤ t) (hlimit : 0 < config.minuteReqLimit) :
    (w.prune t).requests = recent id minuteWindow t (allowedChecks key trace) :=
  h.requests hlimit t hle

theorem pruned_minute (hle : now ≤ t) (hlimit : 0 < config.minuteTokenLimit)
    (hmax : config.minuteTokenLimit < u64Max) :
    (w.prune t).minuteTokens = recent Prod.fst minuteWindow t (recorded key trace)
      ∧ (w.prune t).minuteTokenTotal = spent minuteWindow t (recorded key trace) :=
  Prod.ext_iff.mp (h.minute hlimit hmax t hle)

theorem pruned_hour (hle : now ≤ t) (hlimit : 0 < config.hourTokenLimit)
    (hmax : config.hourTokenLimit < u64Max) :
    (w.prune t).hourTokens = recent Prod.fst hourWindow t (recorded key trace)
      ∧ (w.prune t).hourTokenTotal = spent hourWindow t (recorded key trace) :=
  Prod.ext_iff.mp (h.hour hlimit hmax t hle)

theorem prune (hordered : OrderedTrace trace) (hle : now ≤ t) :
    Tracks config key trace t (w.prune t) where
  minuteReqLimit := h.minuteReqLimit
  minuteTokenLimit := h.minuteTokenLimit
  hourTokenLimit := h.hourTokenLimit
  requests hlimit later hlater := by
    rw [h.pruned_requests hle hlimit]
    exact prune_recent id minuteWindow hlater (ordered_allowedChecks hordered key)
  minute hlimit hmax := by
    obtain ⟨hqueue, htotal⟩ := h.pruned_minute hle hlimit hmax
    rw [hqueue, htotal]
    exact counts_recent _ _ (ordered_recorded hordered key)
  hour hlimit hmax := by
    obtain ⟨hqueue, htotal⟩ := h.pruned_hour hle hlimit hmax
    rw [hqueue, htotal]
    exact counts_recent _ _ (ordered_recorded hordered key)

end

end Tracks

/-! ## A call and the history -/

namespace Tracks

variable {config : RateLimitConfig} {key : String} {trace : LimiterTrace} {now : Instant}
  {w : SlidingWindow} {c : TimedCall}

theorem check (h : Tracks config key trace now w) (hkey : c.key = key) (hcall : c.call = .check)
    (hle : now ≤ c.time) (hordered : OrderedTrace (trace ++ [(c, (w.check c.time).1)])) :
    Tracks config key (trace ++ [(c, (w.check c.time).1)]) c.time (w.check c.time).2 := by
  have hpruned := h.prune (pairwise_append.mp hordered).1 hle
  have hrecords : recorded key (trace ++ [(c, (w.check c.time).1)]) = recorded key trace := by
    rw [recorded_concat]
    simp [report, hcall]
  rcases w.check_cases c.time with ⟨secs, hcheck, -⟩ | ⟨remaining, hcheck, -⟩
  · rw [hcheck] at hrecords ⊢
    refine hpruned.congr ?_ hrecords
    rw [allowedChecks_concat]
    simp [allowedCheck, hcall, isAllowed]
  · rw [hcheck] at hrecords hordered ⊢
    have hchecks : allowedChecks key (trace ++ [(c, .allowed remaining)])
        = allowedChecks key trace ++ [c.time] := by
      rw [allowedChecks_concat]
      simp [allowedCheck, hcall, hkey, isAllowed]
    refine ⟨hpruned.minuteReqLimit, hpruned.minuteTokenLimit, hpruned.hourTokenLimit, ?_, ?_, ?_⟩
    · intro hlimit later hlater
      have hone : recent id minuteWindow c.time [c.time] = [c.time] :=
        recent_singleton id minuteWindow c.time
      have hqueue : (w.prune c.time).requests ++ [c.time] = recent id minuteWindow c.time
          (allowedChecks key (trace ++ [(c, .allowed remaining)])) := by
        rw [h.pruned_requests hle hlimit, hchecks, recent_append, hone]
      rw [hqueue]
      exact prune_recent id minuteWindow hlater (ordered_allowedChecks hordered key)
    · rw [hrecords]
      exact hpruned.minute
    · rw [hrecords]
      exact hpruned.hour

theorem recordTokens {tokens : ℕ} (h : Tracks config key trace now w) (hkey : c.key = key)
    (hcall : c.call = .recordUsage tokens) (hle : now ≤ c.time)
    (hordered : OrderedTrace (trace ++ [(c, (w.recordTokens c.time tokens).1)])) :
    Tracks config key (trace ++ [(c, (w.recordTokens c.time tokens).1)]) c.time
      (w.recordTokens c.time tokens).2 := by
  have hpruned := h.prune (pairwise_append.mp hordered).1 hle
  have hchecks : allowedChecks key (trace ++ [(c, (w.recordTokens c.time tokens).1)])
      = allowedChecks key trace := by
    rw [allowedChecks_concat]
    simp [allowedCheck, hcall]
  rcases w.recordTokens_cases c.time tokens with ⟨secs, hrecord⟩ | ⟨remaining, w', hrecord, hw'⟩
  · rw [hrecord] at hchecks ⊢
    refine hpruned.congr hchecks ?_
    rw [recorded_concat]
    simp [isAllowed]
  · rw [hrecord] at hchecks hordered ⊢
    have hrecords : recorded key (trace ++ [(c, .allowed remaining)])
        = recorded key trace ++ [(c.time, tokens)] := by
      rw [recorded_concat]
      simp [report, hcall, hkey, isAllowed]
    have horderedRecords := ordered_recorded hordered key
    rw [hrecords] at horderedRecords
    refine ⟨hw'.minuteReqLimit.trans hpruned.minuteReqLimit,
      hw'.minuteTokenLimit.trans hpruned.minuteTokenLimit,
      hw'.hourTokenLimit.trans hpruned.hourTokenLimit, ?_, ?_, ?_⟩
    · rw [hchecks, hw'.requests]
      exact hpruned.requests
    · intro hlimit hmax
      obtain ⟨hqueue, htotal, hfits⟩ := hw'.minute (hpruned.minuteTokenLimit ▸ hlimit)
      rw [hpruned.minuteTokenLimit, htotal] at hfits
      rw [hqueue, htotal, hrecords]
      exact counts_saturatingAdd minuteWindow horderedRecords (h.pruned_minute hle hlimit hmax) hmax
        hfits
    · intro hlimit hmax
      obtain ⟨hqueue, htotal, hfits⟩ := hw'.hour (hpruned.hourTokenLimit ▸ hlimit)
      rw [hpruned.hourTokenLimit, htotal] at hfits
      rw [hqueue, htotal, hrecords]
      exact counts_saturatingAdd hourWindow horderedRecords
        (h.pruned_hour hle hlimit hmax) hmax hfits

end Tracks

/-! ## Runs -/

namespace TokenRateLimiter

variable (limiter : TokenRateLimiter)

theorem entry_insert (key key' : String) (w : SlidingWindow) :
    ({ limiter with windows := limiter.windows.insert key w } : TokenRateLimiter).entry key'
      = if key' = key then w else limiter.entry key' := by
  unfold entry
  dsimp only
  rw [Table.insert_apply]
  split <;> rfl

theorem step_config (c : TimedCall) : (limiter.step c).2.config = limiter.config := by
  unfold step
  split
  · unfold check
    split <;> rfl
  · unfold recordUsage
    split <;> rfl

end TokenRateLimiter

section Step

variable {config : RateLimitConfig} {key : String} {trace : LimiterTrace} {now : Instant}
  {limiter : TokenRateLimiter} {c : TimedCall}

theorem Tracks.other {w : SlidingWindow} (h : Tracks config key trace now w) (hkey : c.key ≠ key)
    (result : RateLimitResult) : Tracks config key (trace ++ [(c, result)]) now w := by
  refine h.congr ?_ ?_
  · rw [allowedChecks_concat, allowedCheck]
    split <;> simp [hkey]
  · have hnone : report key c = none := by
      rw [report]
      split <;> simp [hkey]
    rw [recorded_concat, hnone, Option.toList_none, ite_self, append_nil]

theorem Tracks.insert (h : Tracks limiter.config key trace now (limiter.entry key))
    (hle : now ≤ c.time) {w : SlidingWindow} {result : RateLimitResult}
    (hown : c.key = key → Tracks limiter.config key (trace ++ [(c, result)]) c.time w) :
    Tracks limiter.config key (trace ++ [(c, result)]) c.time
      (({ limiter with windows := limiter.windows.insert c.key w } : TokenRateLimiter).entry
        key) := by
  rw [TokenRateLimiter.entry_insert]
  by_cases hkey : key = c.key
  · rw [if_pos hkey]
    exact hown hkey.symm
  · rw [if_neg hkey]
    exact (h.mono hle).other (Ne.symm hkey) result

theorem Tracks.step (h : Tracks limiter.config key trace now (limiter.entry key))
    (hle : now ≤ c.time) (hordered : OrderedTrace (trace ++ [(c, (limiter.step c).1)])) :
    Tracks limiter.config key (trace ++ [(c, (limiter.step c).1)]) c.time
      ((limiter.step c).2.entry key) := by
  have hzero := limiter.config.burst.scale_eq_zero_iff
  cases hcall : c.call with
  | check =>
    simp only [TokenRateLimiter.step, hcall] at hordered ⊢
    rw [TokenRateLimiter.check] at hordered ⊢
    split
    · -- nothing is limited, so nothing needs to be known
      rename_i hunlimited
      obtain ⟨hminute, hhour, hrequests⟩ := hunlimited
      refine ⟨h.minuteReqLimit, h.minuteTokenLimit, h.hourTokenLimit, ?_, ?_, ?_⟩
      · exact fun hlimit => absurd ((hzero _).mpr hrequests) hlimit.ne'
      · exact fun hlimit => absurd ((hzero _).mpr hminute) hlimit.ne'
      · exact fun hlimit => absurd ((hzero _).mpr hhour) hlimit.ne'
    · rename_i hlimited
      rw [if_neg hlimited] at hordered
      refine h.insert hle ?_
      rintro rfl
      exact h.check rfl hcall hle hordered
  | recordUsage tokens =>
    simp only [TokenRateLimiter.step, hcall] at hordered ⊢
    rw [TokenRateLimiter.recordUsage] at hordered ⊢
    split
    · rename_i hunlimited
      obtain ⟨hminute, hhour⟩ := hunlimited
      refine ⟨h.minuteReqLimit, h.minuteTokenLimit, h.hourTokenLimit, ?_, ?_, ?_⟩
      · rw [allowedChecks_concat, allowedCheck]
        simp only [hcall, Option.toList_none, append_nil]
        exact (h.mono hle).requests
      · exact fun hlimit => absurd ((hzero _).mpr hminute) hlimit.ne'
      · exact fun hlimit => absurd ((hzero _).mpr hhour) hlimit.ne'
    · rename_i hlimited
      rw [if_neg hlimited] at hordered
      refine h.insert hle ?_
      rintro rfl
      exact h.recordTokens rfl hcall hle hordered

end Step

section

variable (config : RateLimitConfig)

theorem runLimiter_config (calls : List TimedCall) :
    (runLimiter config calls).2.config = config := by
  induction calls using List.reverseRecOn with
  | nil => rfl
  | append_singleton calls c ih => rw [runLimiter_concat, TokenRateLimiter.step_config, ih]

theorem map_fst_runLimiter (calls : List TimedCall) :
    (runLimiter config calls).1.map Prod.fst = calls := by
  induction calls using List.reverseRecOn with
  | nil => rfl
  | append_singleton calls c ih => rw [runLimiter_concat, map_append, ih]; rfl

theorem orderedTrace_runLimiter (h : Ordered TimedCall.time calls) :
    OrderedTrace (runLimiter config calls).1 := by
  rw [← map_fst_runLimiter config calls, Ordered, pairwise_map] at h
  exact h

theorem tracks_run (key : String) (h : Ordered TimedCall.time calls)
    (hnow : ∀ c ∈ calls, c.time ≤ now) :
    Tracks config key (runLimiter config calls).1 now ((runLimiter config calls).2.entry key) := by
  induction calls using List.reverseRecOn generalizing now with
  | nil =>
    refine ⟨rfl, rfl, rfl, fun _ _ _ => rfl, fun _ _ _ _ => rfl, fun _ _ _ _ => rfl⟩
  | append_singleton calls c ih =>
    have hordered := orderedTrace_runLimiter config h
    obtain ⟨hcalls, -, hlast⟩ := pairwise_append.mp h
    have htracks := ih hcalls fun b hb => hlast b hb c (mem_singleton_self c)
    rw [runLimiter_concat] at hordered ⊢
    have hconfig := runLimiter_config config calls
    have hstep := @Tracks.step key _ c.time (runLimiter config calls).2 c
      (by rw [hconfig]; exact htracks) (Nat.le_refl _) hordered
    rw [hconfig] at hstep
    exact hstep.mono (hnow c (by simp))

end

/-! ## What a check answers -/

def TokensReached (config : RateLimitConfig) (now : Instant) (reports : List (Instant × ℕ)) :
    Prop :=
  (0 < config.tokensPerMinute ∧ config.minuteTokenLimit ≤ spent minuteWindow now reports)
    ∨ (0 < config.tokensPerHour ∧ config.hourTokenLimit ≤ spent hourWindow now reports)

def RequestsReached (config : RateLimitConfig) (now : Instant) (checks : List Instant) : Prop :=
  0 < config.requestsPerMinute ∧ config.minuteReqLimit ≤ (recent id minuteWindow now checks).length

theorem BurstFactor.scale_pos_iff (burst : BurstFactor) (n : ℕ) : 0 < burst.scale n ↔ 0 < n := by
  rw [Nat.pos_iff_ne_zero, Nat.pos_iff_ne_zero, Ne, burst.scale_eq_zero_iff]

namespace RateLimitConfig

variable (config : RateLimitConfig)

theorem minuteReqLimit_pos_iff : 0 < config.minuteReqLimit ↔ 0 < config.requestsPerMinute :=
  config.burst.scale_pos_iff _

theorem minuteTokenLimit_pos_iff : 0 < config.minuteTokenLimit ↔ 0 < config.tokensPerMinute :=
  config.burst.scale_pos_iff _

theorem hourTokenLimit_pos_iff : 0 < config.hourTokenLimit ↔ 0 < config.tokensPerHour :=
  config.burst.scale_pos_iff _

end RateLimitConfig

section Reached

variable {config : RateLimitConfig} {key : String} {trace : LimiterTrace} {now t : Instant}
  {w : SlidingWindow}

theorem Tracks.requestsReached_iff (h : Tracks config key trace now w) (hle : now ≤ t) :
    (0 < (w.prune t).minuteReqLimit ∧ (w.prune t).minuteReqLimit ≤ (w.prune t).requests.length)
      ↔ RequestsReached config t (allowedChecks key trace) := by
  have hlimit : (w.prune t).minuteReqLimit = config.minuteReqLimit := h.minuteReqLimit
  rw [hlimit, RequestsReached, ← config.minuteReqLimit_pos_iff]
  refine and_congr_right fun hpos => ?_
  rw [h.pruned_requests hle hpos]

theorem Tracks.reached_iff (h : Tracks config key trace now w) (hle : now ≤ t)
    (hminute : config.minuteTokenLimit < u64Max) (hhour : config.hourTokenLimit < u64Max) :
    (w.prune t).Reached ↔ TokensReached config t (recorded key trace)
      ∨ RequestsReached config t (allowedChecks key trace) := by
  have hminuteLimit : (w.prune t).minuteTokenLimit = config.minuteTokenLimit := h.minuteTokenLimit
  have hhourLimit : (w.prune t).hourTokenLimit = config.hourTokenLimit := h.hourTokenLimit
  rw [SlidingWindow.Reached, h.requestsReached_iff hle, TokensReached, or_assoc, hminuteLimit,
    hhourLimit, ← config.minuteTokenLimit_pos_iff, ← config.hourTokenLimit_pos_iff]
  refine or_congr (and_congr_right fun hpos => ?_)
    (or_congr (and_congr_right fun hpos => ?_) Iff.rfl)
  · rw [(h.pruned_minute hle hpos hminute).2]
  · rw [(h.pruned_hour hle hpos hhour).2]

end Reached

section Run

variable (config : RateLimitConfig) (key : String) {calls : List TimedCall}
  (h : Ordered TimedCall.time calls)

include h

theorem limited_iff {now : Instant} (hnow : ∀ c ∈ calls, c.time ≤ now)
    (hminute : config.minuteTokenLimit < u64Max) (hhour : config.hourTokenLimit < u64Max) :
    ((runLimiter config calls).2.check now key).1.isAllowed = false
      ↔ TokensReached config now (recorded key (runLimiter config calls).1)
        ∨ RequestsReached config now (allowedChecks key (runLimiter config calls).1) := by
  have htracks := tracks_run config key h hnow
  rw [← Bool.not_eq_true, TokenRateLimiter.isAllowed_check, runLimiter_config, not_or, not_not,
    htracks.reached_iff (Nat.le_refl now) hminute hhour]
  refine and_iff_right_of_imp ?_
  -- a limit that is reached is enabled
  rintro ((⟨hpos, -⟩ | ⟨hpos, -⟩) | ⟨hpos, -⟩) ⟨hzero, hzero', hzero''⟩
  · exact hpos.ne' hzero
  · exact hpos.ne' hzero'
  · exact hpos.ne' hzero''

theorem not_requestsReached_of_allowed {c : TimedCall} (hlast : ∀ b ∈ calls, b.time ≤ c.time)
    {t : Instant}
    (hchecked : allowedCheck key (c, ((runLimiter config calls).2.step c).1) = some t) :
    t = c.time
      ∧ ¬ RequestsReached config c.time (allowedChecks key (runLimiter config calls).1) := by
  have htracks := tracks_run config key h hlast
  cases hcall : c.call with
  | recordUsage tokens => simp [allowedCheck, hcall] at hchecked
  | check =>
    simp only [allowedCheck, hcall, TokenRateLimiter.step, Option.ite_none_right_eq_some,
      Option.some.injEq] at hchecked
    obtain ⟨⟨rfl, hallowed⟩, rfl⟩ := hchecked
    refine ⟨rfl, fun hreached => ?_⟩
    rcases (TokenRateLimiter.isAllowed_check _ _ _).mp hallowed with ⟨-, -, hzero⟩ | hnot
    · rw [runLimiter_config] at hzero
      exact hreached.1.ne' hzero
    · exact hnot (Or.inr (Or.inr ((htracks.requestsReached_iff (Nat.le_refl _)).mpr hreached)))

end Run

theorem allowedChecks_within_le (config : RateLimitConfig) (key : String)
    (hlimit : 0 < config.requestsPerMinute) (h : Ordered TimedCall.time calls) (start : Instant) :
    (within id minuteWindow start (allowedChecks key (runLimiter config calls).1)).length
      ≤ config.minuteReqLimit := by
  induction calls using List.reverseRecOn generalizing start with
  | nil => exact Nat.zero_le _
  | append_singleton calls c ih =>
    obtain ⟨hcalls, -, hlast⟩ := pairwise_append.mp h
    rw [runLimiter_concat, allowedChecks_concat]
    cases hchecked : allowedCheck key (c, ((runLimiter config calls).2.step c).1) with
    | none =>
      rw [Option.toList_none, append_nil]
      exact ih hcalls start
    | some t =>
      obtain ⟨rfl, hnot⟩ := not_requestsReached_of_allowed config key hcalls
        (fun b hb => hlast b hb c (mem_singleton_self c)) hchecked
      have hrecent : (recent id minuteWindow c.time
          (allowedChecks key (runLimiter config calls).1)).length < config.minuteReqLimit :=
        Nat.lt_of_not_le fun hle => hnot ⟨hlimit, hle⟩
      exact length_within_append_le id (ih hcalls) hrecent start

/-! ## The account of a key -/

instance (config : RateLimitConfig) (now : Instant) (reports : List (Instant × ℕ)) :
    Decidable (TokensReached config now reports) :=
  inferInstanceAs (Decidable ((_ ∧ _) ∨ (_ ∧ _)))

instance (config : RateLimitConfig) (now : Instant) (checks : List Instant) :
    Decidable (RequestsReached config now checks) :=
  inferInstanceAs (Decidable (_ ∧ _))

/-- With another report the sums of the last minute and hour stay within the enabled limits. -/
def Fits (config : RateLimitConfig) (now : Instant) (reports : List (Instant × ℕ)) (tokens : ℕ) :
    Prop :=
  (0 < config.tokensPerMinute →
      spent minuteWindow now reports + tokens ≤ config.minuteTokenLimit)
    ∧ (0 < config.tokensPerHour →
      spent hourWindow now reports + tokens ≤ config.hourTokenLimit)

instance (config : RateLimitConfig) (now : Instant) (reports : List (Instant × ℕ)) (tokens : ℕ) :
    Decidable (Fits config now reports tokens) :=
  inferInstanceAs (Decidable ((_ → _) ∧ (_ → _)))

/-- **The account of a key after a sequence of calls**: the reports that fitted when they came, and
the checks that found no limit reached. -/
def account (config : RateLimitConfig) (key : String) (calls : List TimedCall) :
    List (Instant × ℕ) × List Instant :=
  calls.foldl (fun acc c =>
    if c.key ≠ key then acc
    else
      match c.call with
      | .check =>
        if TokensReached config c.time acc.1 ∨ RequestsReached config c.time acc.2 then acc
        else (acc.1, acc.2 ++ [c.time])
      | .recordUsage tokens =>
        if Fits config c.time acc.1 tokens then (acc.1 ++ [(c.time, tokens)], acc.2) else acc)
    ([], [])

theorem Tracks.not_overshoots_iff {config : RateLimitConfig} {key : String} {trace : LimiterTrace}
    {now t : Instant} {w : SlidingWindow} (h : Tracks config key trace now w) (hle : now ≤ t)
    (hminute : config.minuteTokenLimit < u64Max) (hhour : config.hourTokenLimit < u64Max)
    (tokens : ℕ) :
    ¬ (w.prune t).Overshoots tokens ↔ Fits config t (recorded key trace) tokens := by
  have hminuteLimit : (w.prune t).minuteTokenLimit = config.minuteTokenLimit := h.minuteTokenLimit
  have hhourLimit : (w.prune t).hourTokenLimit = config.hourTokenLimit := h.hourTokenLimit
  have hsum : ∀ {limit total : ℕ}, limit < u64Max →
      (¬ limit < saturatingAdd total tokens ↔ total + tokens ≤ limit) := by
    intro limit total hlimit
    unfold saturatingAdd
    omega
  rw [SlidingWindow.Overshoots, not_or, not_and, not_and, and_comm, hminuteLimit, hhourLimit,
    Fits, ← config.minuteTokenLimit_pos_iff, ← config.hourTokenLimit_pos_iff]
  refine and_congr (forall_congr' fun hpos => ?_) (forall_congr' fun hpos => ?_)
  · rw [(h.pruned_minute hle hpos hminute).2, hsum hminute]
  · rw [(h.pruned_hour hle hpos hhour).2, hsum hhour]

section Account

variable (config : RateLimitConfig) (key : String) {calls : List TimedCall}
  (h : Ordered TimedCall.time calls)
  (hminute : config.minuteTokenLimit < u64Max) (hhour : config.hourTokenLimit < u64Max)

include h hminute hhour

theorem isAllowed_recordUsage_iff {now : Instant} (hnow : ∀ c ∈ calls, c.time ≤ now) (tokens : ℕ) :
    ((runLimiter config calls).2.recordUsage now key tokens).1.isAllowed = true
      ↔ Fits config now (recorded key (runLimiter config calls).1) tokens := by
  have htracks := tracks_run config key h hnow
  rw [TokenRateLimiter.isAllowed_recordUsage, runLimiter_config,
    htracks.not_overshoots_iff (Nat.le_refl now) hminute hhour]
  refine or_iff_right_of_imp ?_
  rintro ⟨hnoMinute, hnoHour⟩
  exact ⟨fun hpos => absurd hnoMinute hpos.ne', fun hpos => absurd hnoHour hpos.ne'⟩

/-- **The limiter keeps the account**: what it has accepted and allowed is what the calls alone
determine. -/
theorem account_eq : account config key calls
      = (recorded key (runLimiter config calls).1,
          allowedChecks key (runLimiter config calls).1) := by
  induction calls using List.reverseRecOn with
  | nil => rfl
  | append_singleton calls c ih =>
    obtain ⟨hcalls, -, hlast⟩ := pairwise_append.mp h
    have hnow : ∀ b ∈ calls, b.time ≤ c.time := fun b hb => hlast b hb c (mem_singleton_self c)
    rw [runLimiter_concat, recorded_concat, allowedChecks_concat, account, foldl_append, foldl_cons,
      foldl_nil, ← account, ih hcalls]
    by_cases hkey : c.key = key
    · rw [if_neg (not_not.mpr hkey)]
      cases hcall : c.call with
      | check =>
        have hanswer := limited_iff config key hcalls hnow hminute hhour
        simp only [report, allowedCheck, TokenRateLimiter.step, hcall, hkey, Option.toList_none,
          ite_self, append_nil, true_and]
        split
        · next hreached =>
          rw [hanswer.mpr hreached]
          simp
        · next hfree =>
          rw [(Bool.not_eq_false _).mp (mt hanswer.mp hfree)]
          simp
      | recordUsage tokens =>
        have hanswer := isAllowed_recordUsage_iff config key hcalls hminute hhour hnow tokens
        simp only [report, allowedCheck, TokenRateLimiter.step, hcall, hkey, if_true,
          Option.toList_none, Option.toList_some, append_nil]
        split
        · next hfits => rw [if_pos (hanswer.mpr hfits)]
        · next hover =>
          rw [if_neg (mt hanswer.mp hover), append_nil]
    · have hreport : report key c = none := by
        rw [report]
        split <;> simp [hkey]
      have hcheck : ∀ result, allowedCheck key (c, result) = none := by
        intro result
        rw [allowedCheck]
        split <;> simp [hkey]
      rw [if_pos hkey, hreport, hcheck, Option.toList_none, ite_self, append_nil,
        Option.toList_none, append_nil]

end Account

/-! ## The budget -/

/-- A check after the calls is limited if the reported tokens have reached a limit, and no minute of
the calls has more allowed checks than the limit. -/
def BudgetLaw (config : RateLimitConfig) (key : String) (calls : List TimedCall) (now : Instant) :
    Prop :=
  (TokensReached config now (reported key calls) →
      ((runLimiter config calls).2.check now key).1.isAllowed = false)
    ∧ (0 < config.requestsPerMinute → ∀ start,
        (within id minuteWindow start (allowedChecks key (runLimiter config calls).1)).length
          ≤ config.minuteReqLimit)

/-- **The budget is kept exactly if the reported tokens do not reach a limit before the account of
the key does.** -/
theorem tokenBudget_iff (config : RateLimitConfig) (key : String) {calls : List TimedCall}
    (h : Ordered TimedCall.time calls) {now : Instant} (hnow : ∀ c ∈ calls, c.time ≤ now)
    (hminute : config.minuteTokenLimit < u64Max) (hhour : config.hourTokenLimit < u64Max) :
    BudgetLaw config key calls now
      ↔ (TokensReached config now (reported key calls) →
          TokensReached config now (account config key calls).1
            ∨ RequestsReached config now (account config key calls).2) := by
  rw [BudgetLaw, limited_iff config key h hnow hminute hhour,
    account_eq config key h hminute hhour]
  exact and_iff_left fun hlimit start => allowedChecks_within_le config key hlimit h start

def tenTokens : RateLimitConfig := { tokensPerMinute := 10 }

theorem tokenBudget_exact :
    BudgetLaw tenTokens "key" [⟨"key", 0, .recordUsage 4⟩, ⟨"key", 1, .recordUsage 6⟩] 2 :=
  (tokenBudget_iff tenTokens "key" (by simp [Ordered]) (by simp) (by decide) (by decide)).mpr
    fun _ => Or.inl (Or.inl (by decide))

/-- One response of eleven tokens is refused by `record_usage`, and the next check is allowed. -/
theorem tokenBudget_oversized : ¬ BudgetLaw tenTokens "key" [⟨"key", 0, .recordUsage 11⟩] 1 := by
  rintro ⟨htokens, -⟩
  have hreached : TokensReached tenTokens 1 (reported "key" [⟨"key", 0, .recordUsage 11⟩]) :=
    Or.inl (by decide)
  exact absurd (htokens hreached) (by decide)

end NantianGateway.Ai
