import NantianGateway.Lib.Text
import NantianGateway.Observability.RateLimit

/-!
# Acquiring tokens from several buckets

`HttpRateLimitController`: the first bucket that has no token stops a call, and the tokens taken
until then are put back, at the stamp they were taken at.  The four calls of the source are one
function (`acquire`) at four lists of buckets.
-/

namespace NantianGateway.Observability

open Text List

/-! ## Putting a token back -/

section

variable {options : ScopeOptions} {state : RateLimitBucket options} {now : Instant}

theorem refillBucket_of_lastRefill (hon : options.enabled) (h : state.lastRefill = now) :
    refillBucket state now = state := by
  have hzero : options.refill (now - state.lastRefill) = 0 := by
    rw [h, Nat.sub_self]
    exact Nat.eq_zero_of_le_zero ((options.refill_le 0).trans_eq (Nat.mul_zero _))
  refine RateLimitBucket.ext ?_ h.symm
  show refilledTokens state now = _
  simp only [refilledTokens, if_pos hon, hzero, Nat.lt_irrefl, if_false]

theorem enabled_of_taken (h : (tryConsumeBucket state now).1 = true) : options.enabled = true := by
  by_contra hdisabled
  have htokens : (refillBucket state now).availableMilliTokens = 0 := if_neg hdisabled
  have hle := available_tryConsume state now
  rw [h, Bool.toNat_true, htokens] at hle
  cases Nat.eq_zero_of_add_eq_zero_left hle

theorem refundBucket_tryConsume (h : (tryConsumeBucket state now).1 = true) :
    refundBucket (tryConsumeBucket state now).2 now = refillBucket state now := by
  have hsame := refillBucket_of_lastRefill (enabled_of_taken h) (lastRefill_tryConsume state now)
  have htokens := available_tryConsume state now
  have hle := (refillBucket state now).available_le
  have hcapacity := options.capacity_lt
  rw [h, Bool.toNat_true, Nat.mul_one] at htokens
  refine RateLimitBucket.ext ?_ rfl
  simp only [refundBucket, hsame]
  rw [saturatingAdd, htokens, u64Max]
  omega

end

/-! ## The controller -/

/-- The scopes of a limit, which are also the reasons of a refusal
(`HttpRateLimitRejection`). -/
inductive RateLimitScope where
  | global
  | listener
  | route
  | backend
  deriving DecidableEq

structure HttpRateLimitOptions where
  globalRequestsPerSecond : UInt32 := 0
  globalBurst : UInt32 := 0
  listenerRequestsPerSecond : UInt32 := 0
  listenerBurst : UInt32 := 0
  routeRequestsPerSecond : UInt32 := 0
  routeBurst : UInt32 := 0
  backendRequestsPerSecond : UInt32 := 0
  backendBurst : UInt32 := 0

variable (options : HttpRateLimitOptions)

def HttpRateLimitOptions.scope : RateLimitScope → ScopeOptions
  | .global => ⟨options.globalRequestsPerSecond, options.globalBurst⟩
  | .listener => ⟨options.listenerRequestsPerSecond, options.listenerBurst⟩
  | .route => ⟨options.routeRequestsPerSecond, options.routeBurst⟩
  | .backend => ⟨options.backendRequestsPerSecond, options.backendBurst⟩

abbrev BucketId := RateLimitScope × String

/-- The buckets.  The source's `global` is the bucket of the empty key of its scope. -/
@[ext] structure HttpRateLimitController (options : HttpRateLimitOptions) where
  buckets : (scope : RateLimitScope) → Table String (RateLimitBucket (options.scope scope))

/-- The stamps of a call: the one it passes to the buckets, and the ones its new buckets
get, which read the clock themselves. -/
structure CallStamps where
  now : Instant
  created : RateLimitScope → Instant

/-- The bucket a scope is asked for, if the scope is enabled and the key not blank
(`KeyedScopeController::bucket`). -/
def HttpRateLimitOptions.bucketId (scope : RateLimitScope) (key : String) : Option BucketId :=
  if (options.scope scope).enabled then
    if scope = .global then some (scope, "")
    else if trim key = "" then none
    else some (scope, trim key)
  else none

def HttpRateLimitOptions.bucketIds (asked : List (RateLimitScope × String)) : List BucketId :=
  asked.filterMap fun (scope, key) => options.bucketId scope key

namespace HttpRateLimitController

variable {options : HttpRateLimitOptions}

def new (options : HttpRateLimitOptions) (now : Instant) : HttpRateLimitController options where
  buckets scope := if scope = .global ∧ (options.scope scope).enabled then
      Table.empty.insert "" (newBucket (options.scope scope) now)
    else Table.empty

section

variable (controller : HttpRateLimitController options)

def bucketAt (stamps : CallStamps) (id : BucketId) : RateLimitBucket (options.scope id.1) :=
  (controller.buckets id.1 id.2).getD (newBucket (options.scope id.1) (stamps.created id.1))

def put (id : BucketId)
    (bucket : RateLimitBucket (options.scope id.1)) : HttpRateLimitController options where
  buckets := Function.update controller.buckets id.1 ((controller.buckets id.1).insert id.2 bucket)

/-- The tokens of a bucket; one that is not there is full. -/
def tokens (id : BucketId) : ℕ :=
  ((controller.buckets id.1 id.2).map RateLimitBucket.availableMilliTokens).getD
    (options.scope id.1).capacity

end

def refundAll (stamps : CallStamps) (controller : HttpRateLimitController options)
    (taken : List BucketId) : HttpRateLimitController options :=
  taken.foldl (fun controller id =>
    controller.put id (refundBucket (controller.bucketAt stamps id) stamps.now)) controller

/-- Take a token from each bucket in turn. A bucket without one ends the call, and the tokens taken
so far go back, the last one first. -/
def acquire (stamps : CallStamps) :
    List BucketId → List BucketId → HttpRateLimitController options →
      Except RateLimitScope Bool × HttpRateLimitController options
  | [], taken, controller => (.ok !taken.isEmpty, controller)
  | id :: ids, taken, controller =>
    let (granted, bucket) := tryConsumeBucket (controller.bucketAt stamps id) stamps.now
    let controller := controller.put id bucket
    if granted then acquire stamps ids (id :: taken) controller
    else (.error id.1, refundAll stamps controller taken)

section

variable (controller : HttpRateLimitController options)

def tryAcquireListener (listener : String)
    (stamps : CallStamps) : Except RateLimitScope Bool × HttpRateLimitController options :=
  acquire stamps (options.bucketIds [(.global, ""), (.listener, listener)]) [] controller

def tryAcquireRoute (route : String)
    (stamps : CallStamps) : Except RateLimitScope Bool × HttpRateLimitController options :=
  acquire stamps (options.bucketIds [(.route, route)]) [] controller

def tryAcquireBackend (backend : String)
    (stamps : CallStamps) : Except RateLimitScope Bool × HttpRateLimitController options :=
  acquire stamps (options.bucketIds [(.backend, backend)]) [] controller

def tryAcquire (listener route : String)
    (stamps : CallStamps) : Except RateLimitScope Bool × HttpRateLimitController options :=
  acquire stamps (options.bucketIds [(.global, ""), (.listener, listener), (.route, route)]) []
    controller

end

/-! ## What a call leaves behind -/

/-- **Refilling alone**: some buckets are refilled at the stamp of a call, and nothing else
happens. -/
def refillAt (stamps : CallStamps) (controller : HttpRateLimitController options)
    (ids : List BucketId) : HttpRateLimitController options where
  buckets scope key :=
    if (scope, key) ∈ ids then
      some (refillBucket (controller.bucketAt stamps (scope, key)) stamps.now)
    else controller.buckets scope key

section

variable {controller before after : HttpRateLimitController options} {stamps : CallStamps}
  {ids taken : List BucketId} {id id' : BucketId} (bucket : RateLimitBucket (options.scope id.1))

theorem buckets_put_self : (controller.put id bucket).buckets id.1 id.2 = some bucket := by
  have hscope : (controller.put id bucket).buckets id.1
      = (controller.buckets id.1).insert id.2 bucket := Function.update_self _ _ _
  rw [hscope]
  exact if_pos rfl

theorem buckets_put_of_ne (h : id' ≠ id) :
    (controller.put id bucket).buckets id'.1 id'.2 = controller.buckets id'.1 id'.2 := by
  obtain ⟨scope', key'⟩ := id'
  by_cases hscope : scope' = id.1
  · subst hscope
    have hsame : (controller.put id bucket).buckets id.1
        = (controller.buckets id.1).insert id.2 bucket := Function.update_self _ _ _
    rw [hsame]
    exact if_neg fun hkey => h (Prod.ext rfl hkey)
  · exact congrFun (Function.update_of_ne hscope _ _) key'

theorem buckets_refillAt (scope : RateLimitScope) (key : String) :
    (controller.refillAt stamps ids).buckets scope key = if (scope, key) ∈ ids then
          some (refillBucket (controller.bucketAt stamps (scope, key)) stamps.now)
        else controller.buckets scope key := rfl

theorem bucketAt_congr
    (h : after.buckets id.1 id.2 = before.buckets id.1 id.2) :
    after.bucketAt stamps id = before.bucketAt stamps id := by
  rw [bucketAt, bucketAt, h]

theorem bucketAt_of_some {bucket : RateLimitBucket (options.scope id.1)}
    (h : controller.buckets id.1 id.2 = some bucket) : controller.bucketAt stamps id = bucket := by
  rw [bucketAt, h]
  rfl

/-- **One token was taken from each of some buckets**, and nothing else happened. -/
structure Taken (stamps : CallStamps) (before after : HttpRateLimitController options)
    (ids : List BucketId) : Prop where
  granted : ∀ id ∈ ids, (tryConsumeBucket (before.bucketAt stamps id) stamps.now).1 = true
  taken : ∀ id ∈ ids, after.buckets id.1 id.2
    = some (tryConsumeBucket (before.bucketAt stamps id) stamps.now).2
  others : ∀ id ∉ ids, after.buckets id.1 id.2 = before.buckets id.1 id.2

theorem taken_nil : Taken stamps controller controller [] where
  granted _ hid := absurd hid not_mem_nil
  taken _ hid := absurd hid not_mem_nil
  others _ _ := rfl

theorem Taken.cons (h : Taken stamps before after taken) (hid : id ∉ taken)
    (hgranted : (tryConsumeBucket (after.bucketAt stamps id) stamps.now).1 = true) :
    Taken stamps before
      (after.put id (tryConsumeBucket (after.bucketAt stamps id) stamps.now).2) (id :: taken) := by
  have hbucket : after.bucketAt stamps id = before.bucketAt stamps id :=
    bucketAt_congr (h.others id hid)
  rw [hbucket] at hgranted ⊢
  refine ⟨fun id' hid' => ?_, fun id' hid' => ?_, fun id' hid' => ?_⟩
  · rcases mem_cons.mp hid' with rfl | hid'
    · exact hgranted
    · exact h.granted id' hid'
  · by_cases heq : id' = id
    · subst heq
      exact buckets_put_self _
    · rw [buckets_put_of_ne _ heq]
      exact h.taken id' ((mem_cons.mp hid').resolve_left heq)
  · rw [mem_cons, not_or] at hid'
    rw [buckets_put_of_ne _ hid'.1]
    exact h.others id' hid'.2

theorem buckets_refundAll (hnodup : taken.Nodup) :
    (∀ id ∈ taken, (refundAll stamps controller taken).buckets id.1 id.2
      = some (refundBucket (controller.bucketAt stamps id) stamps.now)) ∧
    ∀ id ∉ taken, (refundAll stamps controller taken).buckets id.1 id.2
      = controller.buckets id.1 id.2 := by
  induction taken generalizing controller with
  | nil => exact ⟨fun _ hid => absurd hid not_mem_nil, fun _ _ => rfl⟩
  | cons id taken ih =>
    obtain ⟨hfresh, hrest⟩ := nodup_cons.mp hnodup
    obtain ⟨hin, hout⟩ := @ih
      (controller.put id (refundBucket (controller.bucketAt stamps id) stamps.now)) hrest
    refine ⟨fun id' hid' => ?_, fun id' hid' => ?_⟩
    · rcases mem_cons.mp hid' with rfl | hid'
      · exact (hout id' hfresh).trans (buckets_put_self _)
      · have hne : id' ≠ id := fun heq => hfresh (heq ▸ hid')
        refine (hin id' hid').trans ?_
        rw [bucketAt_congr (buckets_put_of_ne _ hne)]
    · rw [mem_cons, not_or] at hid'
      exact (hout id' hid'.2).trans (buckets_put_of_ne _ hid'.1)

/-- **A refusal puts everything back**: the refunds leave what refilling alone would have left. -/
theorem refundAll_of_taken (h : Taken stamps before after taken) (hnodup : taken.Nodup)
    (hid : id ∉ taken) :
    refundAll stamps (after.put id (refillBucket (after.bucketAt stamps id) stamps.now)) taken
      = before.refillAt stamps (id :: taken) := by
  obtain ⟨hin, hout⟩ := @buckets_refundAll options
    (after.put id (refillBucket (after.bucketAt stamps id) stamps.now)) stamps taken hnodup
  refine HttpRateLimitController.ext (funext fun scope => funext fun key => ?_)
  rw [buckets_refillAt]
  by_cases htaken : (scope, key) ∈ taken
  · have hne : (scope, key) ≠ id := fun heq => hid (heq ▸ htaken)
    rw [if_pos (mem_cons_of_mem _ htaken)]
    refine (hin _ htaken).trans (congrArg some ?_)
    rw [bucketAt_of_some ((buckets_put_of_ne _ hne).trans (h.taken _ htaken))]
    exact refundBucket_tryConsume (h.granted _ htaken)
  · refine (hout _ htaken).trans ?_
    by_cases heq : (scope, key) = id
    · subst heq
      rw [if_pos mem_cons_self, ← bucketAt_congr (h.others _ hid)]
      exact buckets_put_self _
    · rw [if_neg (not_mem_cons_of_ne_of_not_mem heq htaken)]
      exact (buckets_put_of_ne _ heq).trans (h.others _ htaken)

/-- The buckets that a call asked, by its outcome: all of them, or up to the one that
refused. -/
def visited (ids : List BucketId) : Except RateLimitScope Bool → List BucketId
  | .ok _ => ids
  | .error scope => ids.takeWhile (·.1 ≠ scope) ++ (ids.find? (·.1 = scope)).toList

theorem visited_error {pre post : List BucketId}
    (h : ((pre ++ id :: post).map Prod.fst).Nodup) :
    visited (pre ++ id :: post) (.error id.1) = pre ++ [id] := by
  have hpre : ∀ id' ∈ pre, id'.1 ≠ id.1 := by
    intro id' hid' heq
    rw [map_append, nodup_append] at h
    exact h.2.2 id'.1 (mem_map_of_mem hid') id.1 (mem_map_of_mem mem_cons_self) heq
  have hwhile : (pre ++ id :: post).takeWhile (·.1 ≠ id.1) = pre := by
    rw [takeWhile_append_of_pos fun id' hid' => decide_eq_true (hpre id' hid'),
      takeWhile_cons_of_neg (by simp), append_nil]
  have hfind : (pre ++ id :: post).find? (·.1 = id.1) = some id := by
    rw [find?_append, find?_eq_none.mpr fun id' hid' => by simpa using hpre id' hid',
      Option.none_or, find?_cons_of_pos (by simp)]
  rw [visited, hwhile, hfind]
  rfl

/-- **A bucket among some has no token left** at the stamp of a call. -/
def Short (controller : HttpRateLimitController options) (stamps : CallStamps)
    (ids : List BucketId) : Prop :=
  ∃ id ∈ ids, (tryConsumeBucket (controller.bucketAt stamps id) stamps.now).1 = false

instance : Decidable (controller.Short stamps ids) := inferInstanceAs (Decidable (∃ id ∈ ids, _))

theorem isOk_acquire (hnodup : ids.Nodup) :
    (acquire stamps ids taken controller).1.isOk = true ↔ ¬ controller.Short stamps ids := by
  induction ids generalizing taken controller with
  | nil => exact iff_of_true rfl fun ⟨_, hid, _⟩ => absurd hid not_mem_nil
  | cons id ids ih =>
    obtain ⟨hfresh, hrest⟩ := nodup_cons.mp hnodup
    rw [acquire]
    cases hgranted : (tryConsumeBucket (controller.bucketAt stamps id) stamps.now).1 with
    | false =>
      simp only [hgranted]
      exact iff_of_false Bool.false_ne_true (not_not.mpr ⟨id, mem_cons_self, hgranted⟩)
    | true =>
      -- the buckets still to be asked are as they were
      have hsame (id') (hid' : id' ∈ ids) (bucket) :
          (controller.put id bucket).bucketAt stamps id' = controller.bucketAt stamps id' :=
        bucketAt_congr (buckets_put_of_ne bucket fun heq => hfresh (heq ▸ hid'))
      simp only [hgranted, if_true]
      rw [ih hrest, Short, Short, exists_mem_cons_iff, hgranted]
      simp only [Bool.true_eq_false, false_or]
      refine not_congr (exists_congr fun id' => and_congr_right fun hid' => ?_)
      rw [hsame id' hid']

/-- **A call**, with tokens already taken from some buckets: it takes one from each of the
others, or leaves only the refills. -/
theorem acquire_cases (h : Taken stamps before controller taken)
    (hnodup : (taken.reverse ++ ids).Nodup) :
    (∃ after, acquire stamps ids taken controller = (.ok !(taken.reverse ++ ids).isEmpty, after) ∧
        Taken stamps before after (ids.reverse ++ taken)) ∨
      ∃ pre id post after, ids = pre ++ id :: post ∧
        acquire stamps ids taken controller = (.error id.1, after) ∧
        ∀ visited : List BucketId, (∀ id', id' ∈ visited ↔ id' ∈ taken ∨ id' ∈ pre ++ [id]) →
          after = before.refillAt stamps visited := by
  induction ids generalizing taken controller with
  | nil =>
    refine .inl ⟨controller, ?_, h⟩
    rw [acquire, append_nil, isEmpty_reverse]
  | cons id ids ih =>
    have hperm : ((id :: taken).reverse ++ ids).Nodup := by
      rwa [reverse_cons, append_assoc, singleton_append]
    have hfresh : id ∉ taken := by
      intro hid
      rw [nodup_append] at hnodup
      exact hnodup.2.2 id (mem_reverse.mpr hid) id mem_cons_self rfl
    cases hgranted : (tryConsumeBucket (controller.bucketAt stamps id) stamps.now).1 with
    | true =>
      have hstep : acquire stamps (id :: ids) taken controller = acquire stamps ids (id :: taken)
            (controller.put id (tryConsumeBucket
                (controller.bucketAt stamps id) stamps.now).2) := by
        rw [acquire]
        simp only [hgranted, if_true]
      have hlist : (id :: taken).reverse ++ ids = taken.reverse ++ id :: ids := by
        rw [reverse_cons, append_assoc, singleton_append]
      rw [hstep]
      rcases ih (h.cons hfresh hgranted) hperm with ⟨after, hafter, htaken⟩ |
        ⟨pre, id', post, after, hids, hafter, hvisited⟩
      · rw [hlist] at hafter
        refine .inl ⟨after, hafter, ?_⟩
        rwa [reverse_cons, append_assoc, singleton_append]
      · refine .inr ⟨id :: pre, id', post, after, by rw [hids, cons_append], hafter, ?_⟩
        intro visited hmem
        refine hvisited visited fun x => ?_
        rw [hmem x, cons_append, mem_cons, mem_cons]
        tauto
    | false =>
      have hbucket : (tryConsumeBucket (controller.bucketAt stamps id) stamps.now).2
          = refillBucket (controller.bucketAt stamps id) stamps.now := by
        rw [tryConsumeBucket] at hgranted ⊢
        split at hgranted
        · rename_i hnil
          rw [if_pos hnil]
        · cases hgranted
      refine .inr ⟨[], id, ids, refundAll stamps
        (controller.put id (refillBucket (controller.bucketAt stamps id) stamps.now)) taken,
        rfl, ?_, fun visited hmem => ?_⟩
      · rw [acquire]
        simp only [hgranted, Bool.false_eq_true, if_false, hbucket]
      · have hnodup' : taken.Nodup := nodup_reverse.mp (nodup_append.mp hnodup).1
        rw [refundAll_of_taken h hnodup' hfresh]
        refine HttpRateLimitController.ext (funext fun scope => funext fun key => ?_)
        rw [buckets_refillAt, buckets_refillAt]
        refine if_congr ?_ rfl rfl
        rw [hmem, nil_append, mem_singleton, mem_cons, or_comm]

theorem acquire_granted (hnodup : (ids.map Prod.fst).Nodup) {applied : Bool}
    (h : (acquire stamps ids [] controller).1 = .ok applied) :
    applied = !ids.isEmpty ∧ Taken stamps controller (acquire stamps ids [] controller).2 ids := by
  rcases acquire_cases taken_nil (Nodup.of_map Prod.fst hnodup) with
    ⟨after, hafter, htaken⟩ | ⟨pre, id, post, after, hids, hafter, hvisited⟩
  · rw [hafter] at h ⊢
    refine ⟨(Except.ok.inj h).symm, ⟨fun id hid => ?_, fun id hid => ?_, fun id hid => ?_⟩⟩
    · exact htaken.granted id (mem_append_left _ (mem_reverse.mpr hid))
    · exact htaken.taken id (mem_append_left _ (mem_reverse.mpr hid))
    · refine htaken.others id fun hmem => hid ?_
      rwa [append_nil, mem_reverse] at hmem
  · rw [hafter] at h
    cases h

theorem acquire_refused (hnodup : (ids.map Prod.fst).Nodup) {scope : RateLimitScope}
    (h : (acquire stamps ids [] controller).1 = .error scope) :
    (acquire stamps ids [] controller).2
      = controller.refillAt stamps (visited ids (acquire stamps ids [] controller).1) := by
  rcases acquire_cases taken_nil (Nodup.of_map Prod.fst hnodup) with
    ⟨after, hafter, htaken⟩ | ⟨pre, id, post, after, hids, hafter, hvisited⟩
  · rw [hafter] at h
    cases h
  · rw [hafter]
    refine hvisited _ fun id' => ?_
    subst hids
    rw [visited_error hnodup]
    exact (or_iff_right not_mem_nil).symm

end

/-! ## Tokens owed -/

/-- **Where a controller stands against one that was only refilled**: some buckets hold a
token less, and the others are the same. -/
structure Owes (reference controller : HttpRateLimitController options) (paid : List BucketId) :
    Prop where
  owed : ∀ id ∈ paid, controller.tokens id + rateLimitTokenScale = reference.tokens id
  others : ∀ id ∉ paid, controller.buckets id.1 id.2 = reference.buckets id.1 id.2

section

variable {reference controller after : HttpRateLimitController options} {stamps : CallStamps}
  {ids paid : List BucketId}

theorem owes_nil : Owes controller controller [] where
  owed _ hid := absurd hid not_mem_nil
  others _ _ := rfl

theorem tokens_congr {id : BucketId} (h : after.buckets id.1 id.2 = controller.buckets id.1 id.2) :
    after.tokens id = controller.tokens id := by
  rw [tokens, tokens, h]

theorem buckets_refillAt_of_notMem {id : BucketId} (h : id ∉ ids) :
    (controller.refillAt stamps ids).buckets id.1 id.2 = controller.buckets id.1 id.2 :=
  if_neg h

theorem Owes.tokens_eq_iff (h : Owes reference controller paid) :
    (∀ id, controller.tokens id = reference.tokens id) ↔ paid = [] := by
  constructor
  · intro hall
    refine eq_nil_iff_forall_not_mem.mpr fun id hid => ?_
    have hpaid := h.owed id hid
    rw [hall id] at hpaid
    exact absurd hpaid (Nat.ne_of_gt (Nat.lt_add_of_pos_right (by decide)))
  · rintro rfl id
    exact tokens_congr (h.others id not_mem_nil)

theorem Owes.granted (h : Owes reference controller paid)
    (htaken : Taken stamps controller after ids)
    (hdisjoint : ∀ id ∈ ids, id ∉ paid) :
    Owes (reference.refillAt stamps ids) after (paid ++ ids) := by
  refine ⟨fun id hid => ?_, fun id hid => ?_⟩
  · by_cases hin : id ∈ ids
    · have hsame : reference.bucketAt stamps id = controller.bucketAt stamps id :=
        (bucketAt_congr (h.others id (hdisjoint id hin))).symm
      have hrefilled : (reference.refillAt stamps ids).buckets id.1 id.2
          = some (refillBucket (controller.bucketAt stamps id) stamps.now) :=
        (if_pos hin).trans (congrArg (fun bucket => some (refillBucket bucket stamps.now)) hsame)
      have hone := available_tryConsume (controller.bucketAt stamps id) stamps.now
      rw [htaken.granted id hin] at hone
      rw [tokens, tokens, htaken.taken id hin, hrefilled]
      exact hone
    · have hpaid := (mem_append.mp hid).resolve_right hin
      rw [tokens_congr (htaken.others id hin), tokens_congr (buckets_refillAt_of_notMem hin)]
      exact h.owed id hpaid
  · rw [mem_append, not_or] at hid
    rw [htaken.others id hid.2, buckets_refillAt_of_notMem hid.2]
    exact h.others id hid.1

theorem Owes.refused (h : Owes reference controller paid) (hdisjoint : ∀ id ∈ ids, id ∉ paid) :
    Owes (reference.refillAt stamps ids) (controller.refillAt stamps ids) paid := by
  refine ⟨fun id hid => ?_, fun id hid => ?_⟩
  · have hout : id ∉ ids := fun hin => hdisjoint id hin hid
    rw [tokens_congr (buckets_refillAt_of_notMem hout),
      tokens_congr (buckets_refillAt_of_notMem hout)]
    exact h.owed id hid
  · rw [buckets_refillAt, buckets_refillAt, h.others id hid, bucketAt_congr (h.others id hid)]

end

end HttpRateLimitController

end NantianGateway.Observability
