import NantianGateway.Http.ResponseProtocol
import NantianGateway.Observability.RateLimitController

/-!
# What a request refused for its rate has paid

`do_request_filter` asks the rate limits in up to three calls.  Each puts back what it took if it
is refused; none puts back what an earlier call of the same request took.  The guards keep their
calls as a history variable.
-/

namespace NantianGateway.Http

open Text Stages Observability HttpRateLimitController List

/-! ## The guards -/

def routeKindName : RouteKind → String
  | .http => "Http"
  | .grpc => "Grpc"
  | .tcp => "Tcp"
  | .udp => "Udp"
  | .tls => "Tls"

def routeBudgetKey (routeKind «namespace» name : String) : String :=
  routeKind ++ "/" ++ «namespace» ++ "/" ++ name

def routeBudgetKeyIfEnabled (enabled : Bool) (routeKind «namespace» name : String) :
    Option String :=
  if enabled then some (routeBudgetKey routeKind «namespace» name) else none

inductive LimiterRequest where
  | listener (listener : String)
  | route (route : String)
  | backend (backend : String)
  | listenerAndRoute (listener route : String)

namespace LimiterRequest

def asked : LimiterRequest → List (RateLimitScope × String)
  | listener l => [(.global, ""), (.listener, l)]
  | route r => [(.route, r)]
  | backend b => [(.backend, b)]
  | listenerAndRoute l r => [(.global, ""), (.listener, l), (.route, r)]

variable {options : HttpRateLimitOptions} (request : LimiterRequest)
  (controller : HttpRateLimitController options) (stamps : CallStamps)

def run : Except RateLimitScope Bool × HttpRateLimitController options :=
  match request with
  | listener l => controller.tryAcquireListener l stamps
  | route r => controller.tryAcquireRoute r stamps
  | backend b => controller.tryAcquireBackend b stamps
  | listenerAndRoute l r => controller.tryAcquire l r stamps

theorem run_eq : request.run controller stamps = acquire stamps (options.bucketIds request.asked) []
        controller := by
  cases request <;> rfl

end LimiterRequest

/-- A call that was made, with the buckets it may ask and its outcome. -/
structure LimiterCall where
  ids : List BucketId
  stamps : CallStamps
  outcome : Except RateLimitScope Bool

/-- What the guards read and write of the request context and the controller, with the calls
made so far. -/
structure GuardState (options : HttpRateLimitOptions) where
  controller : HttpRateLimitController options
  rateLimitApplied : Bool := false
  calls : List LimiterCall := []

structure GuardedRoute where
  routeKind : String
  routeNamespace : String
  routeName : String
  listenerName : String
  backendName : Option String

structure GuardStamps where
  listener : CallStamps
  route : CallStamps
  backend : CallStamps

section

variable {options : HttpRateLimitOptions}

def GuardState.call (st : GuardState options) (request : LimiterRequest) (stamps : CallStamps) :
    Bool × GuardState options :=
  let out := request.run st.controller stamps
  let calls := st.calls ++ [⟨options.bucketIds request.asked, stamps, out.1⟩]
  match out.1 with
  | .ok applied => (true, ⟨out.2, st.rateLimitApplied || applied, calls⟩)
  | .error _ => (false, ⟨out.2, st.rateLimitApplied, calls⟩)

def tryRateLimitListener (listenerNameHint : Option String) (stamps : CallStamps)
    (st : GuardState options) : Bool × GuardState options :=
  match listenerNameHint with
  | none => (true, st)
  | some listenerName => st.call (.listener listenerName) stamps

/-- The first call for a route. With a hint the listener was asked already; the backend is not asked
if the routes have no limit. -/
def routeRequest (options : HttpRateLimitOptions) (listenerNameHint : Option String)
    (route : GuardedRoute) : Option LimiterRequest :=
  match routeBudgetKeyIfEnabled (options.scope .route).enabled route.routeKind
      route.routeNamespace route.routeName, listenerNameHint with
  | some routeKey, none => some (.listenerAndRoute route.listenerName routeKey)
  | some routeKey, some _ => some (.route routeKey)
  | none, none => some (.listener route.listenerName)
  | none, some _ => none

def backendRequest (options : HttpRateLimitOptions) (route : GuardedRoute) :
    Option LimiterRequest :=
  if (options.scope .backend).enabled then route.backendName.map .backend else none

section

variable (listenerNameHint : Option String)

/-- The guard of a selected route, for the three kinds of selection. -/
def tryRateLimitRoute (route : GuardedRoute)
    (stamps : GuardStamps) (st : GuardState options) : Bool × GuardState options :=
  match routeRequest options listenerNameHint route with
  | none => (true, st)
  | some request =>
    match st.call request stamps.route with
    | (false, st) => (false, st)
    | (true, st) =>
      match backendRequest options route with
      | none => (true, st)
      | some request => st.call request stamps.backend

def tryRateLimitGrpcRequest (selected : SelectedBackend) :
    GuardStamps → GuardState options → Bool × GuardState options :=
  tryRateLimitRoute listenerNameHint
    ⟨routeKindName selected.routeKind, selected.routeNamespace, selected.routeName,
      selected.listenerName, some selected.backendName⟩

def tryRateLimitHttpRoute (route : SelectedHttpRoute) :
    GuardStamps → GuardState options → Bool × GuardState options :=
  tryRateLimitRoute listenerNameHint
    ⟨"Http", route.routeNamespace, route.routeName, route.listenerName, route.backendName⟩

def tryRateLimitFastHttpRoute (selected : CompiledSelectedHttpBackend) :
    GuardStamps → GuardState options → Bool × GuardState options :=
  tryRateLimitRoute listenerNameHint
    ⟨"Http", selected.routeNamespace, selected.routeName, selected.listenerName,
      some selected.backendName⟩

variable (selections : Selections) (stamps : GuardStamps)

def pathGuard (st : GuardState options) : Bool × GuardState options :=
  match selections.fastPath, selections.grpc, selections.http with
  | some selected, _, _ => tryRateLimitFastHttpRoute listenerNameHint selected stamps st
  | none, some selected, _ => tryRateLimitGrpcRequest listenerNameHint selected stamps st
  | none, none, some route => tryRateLimitHttpRoute listenerNameHint route stamps st
  | none, none, none => (true, st)

def requestGuards (controller : HttpRateLimitController options) : Bool × GuardState options :=
  match tryRateLimitListener listenerNameHint stamps.listener { controller } with
  | (false, st) => (false, st)
  | (true, st) => pathGuard listenerNameHint selections stamps st

end

def Outcomes.limitedBy (o : Outcomes) (listenerNameHint : Option String) (selections : Selections)
    (stamps : GuardStamps) (controller : HttpRateLimitController options) : Outcomes :=
  { o with
    listenerWithinRate :=
      (tryRateLimitListener listenerNameHint stamps.listener
        ({ controller } : GuardState options)).1
    routeWithinRate := (requestGuards listenerNameHint selections stamps controller).1 }

/-- **What the buckets would hold by refill alone**, at the stamps of some calls. -/
def reference (controller : HttpRateLimitController options) (calls : List LimiterCall) :
    HttpRateLimitController options :=
  calls.foldl (fun controller call =>
    controller.refillAt call.stamps (visited call.ids call.outcome))
    controller

/-! ## One call -/

section

variable {listenerNameHint : Option String} {selections : Selections}
  {controller : HttpRateLimitController options} {st : GuardState options}
  {request : LimiterRequest} {stamps : CallStamps} {spent : List RateLimitScope}

def LimiterRequest.scopes (request : LimiterRequest) : List RateLimitScope :=
  request.asked.map Prod.fst

theorem LimiterRequest.nodup_scopes (request : LimiterRequest) : request.scopes.Nodup := by
  cases request <;> simp [scopes, asked]

theorem scope_of_bucketId {scope : RateLimitScope} {key : String} {id : BucketId}
    (h : options.bucketId scope key = some id) : id.1 = scope := by
  rw [HttpRateLimitOptions.bucketId] at h
  split_ifs at h
  · exact congrArg Prod.fst (Option.some.inj h).symm
  · exact congrArg Prod.fst (Option.some.inj h).symm

theorem scopes_bucketIds (asked : List (RateLimitScope × String)) :
    ((options.bucketIds asked).map Prod.fst).Sublist (asked.map Prod.fst) := by
  induction asked with
  | nil => exact List.Sublist.refl []
  | cons ask asked ih =>
    rw [HttpRateLimitOptions.bucketIds, filterMap_cons, map_cons]
    split
    · exact ih.cons _
    · rename_i id hid
      rw [map_cons, scope_of_bucketId hid]
      exact ih.cons_cons _

theorem nodup_bucketIds (request : LimiterRequest) :
    ((options.bucketIds request.asked).map Prod.fst).Nodup :=
  (scopes_bucketIds request.asked).nodup request.nodup_scopes

theorem scope_mem_of_mem_bucketIds {id : BucketId} (h : id ∈ options.bucketIds request.asked) :
    id.1 ∈ request.scopes :=
  (scopes_bucketIds request.asked).subset (mem_map_of_mem h)

theorem call_eq {granted : Bool} (h : (st.call request stamps).1 = granted) :
    st.call request stamps = (granted, (st.call request stamps).2) :=
  Prod.ext h rfl

theorem calls_call : (st.call request stamps).2.calls = st.calls
      ++ [⟨options.bucketIds request.asked, stamps, (request.run st.controller stamps).1⟩] := by
  rw [GuardState.call]
  cases (request.run st.controller stamps).1 <;> rfl

theorem controller_call :
    (st.call request stamps).2.controller = (request.run st.controller stamps).2 := by
  rw [GuardState.call]
  cases (request.run st.controller stamps).1 <;> rfl

theorem call_refused_iff : (st.call request stamps).1 = false ↔
    st.controller.Short stamps (options.bucketIds request.asked) := by
  have hgranted : (st.call request stamps).1 = (request.run st.controller stamps).1.isOk := by
    rw [GuardState.call]
    cases (request.run st.controller stamps).1 <;> rfl
  rw [← Bool.not_eq_true, hgranted, request.run_eq,
    isOk_acquire (Nodup.of_map Prod.fst (nodup_bucketIds request)), not_not]

theorem reference_append (calls : List LimiterCall) (call : LimiterCall) :
    reference controller (calls ++ [call]) = (reference controller calls).refillAt call.stamps
        (visited call.ids call.outcome) := by
  rw [reference, foldl_append]
  rfl

/-- **Every call so far was granted**: each of its buckets, which are of some scopes, is owed
a token. -/
structure Paid (controller : HttpRateLimitController options) (spent : List RateLimitScope)
    (st : GuardState options) : Prop where
  owes : (reference controller st.calls).Owes st.controller (st.calls.flatMap LimiterCall.ids)
  scopes : ∀ id ∈ st.calls.flatMap LimiterCall.ids, id.1 ∈ spent

/-- **The last call was refused**: only the buckets of the calls before it are owed a token. -/
def Refused (controller : HttpRateLimitController options) (st : GuardState options) : Prop :=
  st.calls ≠ [] ∧ (reference controller st.calls).Owes st.controller
    (st.calls.dropLast.flatMap LimiterCall.ids)

theorem paid_start (controller : HttpRateLimitController options) :
    Paid controller [] { controller } where
  owes := owes_nil
  scopes _ hid := absurd hid not_mem_nil

section

variable (h : Paid controller spent st) (hfresh : ∀ scope ∈ request.scopes, scope ∉ spent)

include h hfresh

theorem Paid.disjoint :
    ∀ id ∈ options.bucketIds request.asked, id ∉ st.calls.flatMap LimiterCall.ids :=
  fun id hid hpaid => hfresh id.1 (scope_mem_of_mem_bucketIds hid) (h.scopes id hpaid)

theorem Paid.call (hgranted : (st.call request stamps).1 = true) :
    Paid controller (spent ++ request.scopes) (st.call request stamps).2 := by
  cases hout : (request.run st.controller stamps).1 with
  | error scope =>
    rw [GuardState.call, hout] at hgranted
    cases hgranted
  | ok applied =>
    rw [request.run_eq] at hout
    obtain ⟨-, htaken⟩ := acquire_granted (nodup_bucketIds request) hout
    refine ⟨?_, fun id hid => ?_⟩
    · rw [calls_call, controller_call, reference_append, flatMap_append, request.run_eq, hout]
      simp only [flatMap_cons, flatMap_nil, append_nil]
      exact h.owes.granted htaken (h.disjoint hfresh)
    · rw [calls_call, flatMap_append, mem_append] at hid
      rw [mem_append]
      refine hid.imp (h.scopes id) fun hid => ?_
      rw [flatMap_cons, flatMap_nil, append_nil] at hid
      exact scope_mem_of_mem_bucketIds hid

theorem Paid.refused (hrefused : (st.call request stamps).1 = false) :
    Refused controller (st.call request stamps).2 := by
  cases hout : (request.run st.controller stamps).1 with
  | ok applied =>
    rw [GuardState.call, hout] at hrefused
    cases hrefused
  | error scope =>
    rw [request.run_eq] at hout
    have hafter := acquire_refused (nodup_bucketIds request) hout
    have hvisited : ∀ id ∈ visited (options.bucketIds request.asked)
        (.error scope), id ∈ options.bucketIds request.asked := by
      intro id hid
      rw [visited, mem_append, Option.mem_toList] at hid
      exact hid.elim (fun hid => (takeWhile_sublist _).subset hid) mem_of_find?_eq_some
    rw [Refused, calls_call, controller_call, reference_append, dropLast_concat,
      request.run_eq, hafter, hout]
    exact ⟨append_ne_nil_of_right_ne_nil _ (cons_ne_nil _ _),
      h.owes.refused fun id hid => h.disjoint hfresh id (hvisited id hid)⟩

end

/-! ## The guards of a request -/

def hintScopes : Option String → List RateLimitScope
  | none => []
  | some _ => [.global, .listener]

variable {route : GuardedRoute}

theorem scopes_routeRequest (h : routeRequest options listenerNameHint route = some request) :
    ∀ scope ∈ request.scopes, scope ∉ hintScopes listenerNameHint ∧ scope ≠ .backend := by
  unfold routeRequest at h
  split at h
  · cases h
    simp [LimiterRequest.scopes, LimiterRequest.asked, hintScopes]
  · cases h
    simp [LimiterRequest.scopes, LimiterRequest.asked, hintScopes]
  · cases h
    simp [LimiterRequest.scopes, LimiterRequest.asked, hintScopes]
  · cases h

theorem scopes_backendRequest
    (h : backendRequest options route = some request) : request.scopes = [.backend] := by
  rw [backendRequest] at h
  split at h
  · obtain ⟨backend, -, rfl⟩ := Option.map_eq_some_iff.mp h
    rfl
  · cases h

/-- What the guards see of the selected route, of whichever path it was selected by. -/
def guardedRoute : Selections → Option GuardedRoute
  | ⟨some selected, _, _, _⟩ =>
    some ⟨"Http", selected.routeNamespace, selected.routeName, selected.listenerName,
      some selected.backendName⟩
  | ⟨none, some selected, _, _⟩ =>
    some ⟨routeKindName selected.routeKind, selected.routeNamespace, selected.routeName,
      selected.listenerName, some selected.backendName⟩
  | ⟨none, none, some route, _⟩ =>
    some ⟨"Http", route.routeNamespace, route.routeName, route.listenerName, route.backendName⟩
  | ⟨none, none, none, _⟩ => none

theorem pathGuard_eq {stamps : GuardStamps} :
    pathGuard listenerNameHint selections stamps st = (guardedRoute selections).elim (true, st)
      fun route => tryRateLimitRoute listenerNameHint route stamps st := by
  obtain ⟨fast, grpc, http, fallback⟩ := selections
  cases fast <;> cases grpc <;> cases http <;> rfl

/-- **What a refusal for the selected route looks like**: its first call is refused, or that of the
backend after it. -/
theorem pathGuard_cases {stamps : GuardStamps}
    (hrefused : (pathGuard listenerNameHint selections stamps st).1 = false) :
    ∃ route request, guardedRoute selections = some route ∧
      routeRequest options listenerNameHint route = some request ∧
      (pathGuard listenerNameHint selections stamps st = st.call request stamps.route ∨
        (st.call request stamps.route).1 = true ∧ ∃ request',
          backendRequest options route = some request' ∧
          pathGuard listenerNameHint selections stamps st
            = (st.call request stamps.route).2.call request' stamps.backend) := by
  rw [pathGuard_eq] at hrefused ⊢
  generalize guardedRoute selections = selected at hrefused ⊢
  cases selected with
  | none => cases hrefused
  | some route =>
    rw [Option.elim_some, tryRateLimitRoute] at hrefused ⊢
    cases hroute : routeRequest options listenerNameHint route with
    | none =>
      rw [hroute] at hrefused
      cases hrefused
    | some request =>
      rw [hroute] at hrefused
      refine ⟨route, request, rfl, hroute, ?_⟩
      dsimp only at hrefused ⊢
      cases hfirst : (st.call request stamps.route).1 with
      | false => exact .inl (by rw [call_eq hfirst])
      | true =>
        rw [call_eq hfirst] at hrefused ⊢
        dsimp only at hrefused ⊢
        cases hbackend : backendRequest options route with
        | none =>
          rw [hbackend] at hrefused
          cases hrefused
        | some request' => exact .inr ⟨rfl, request', rfl, rfl⟩

theorem refused_pathGuard {stamps : GuardStamps}
    (h : Paid controller (hintScopes listenerNameHint) st)
    (hrefused : (pathGuard listenerNameHint selections stamps st).1 = false) :
    Refused controller (pathGuard listenerNameHint selections stamps st).2 := by
  obtain ⟨route, request, -, hroute, hcases⟩ := pathGuard_cases hrefused
  have hscopes := scopes_routeRequest hroute
  have hfresh : ∀ scope ∈ request.scopes, scope ∉ hintScopes listenerNameHint :=
    fun scope hscope => (hscopes scope hscope).1
  rcases hcases with hst | ⟨hfirst, request', hbackend, hst⟩
  · rw [hst] at hrefused ⊢
    exact h.refused hfresh hrefused
  · rw [hst] at hrefused ⊢
    refine (h.call hfresh hfirst).refused ?_ hrefused
    -- the backend is asked by no other call
    rw [scopes_backendRequest hbackend, forall_mem_singleton, mem_append, not_or]
    refine ⟨?_, fun hmem => (hscopes _ hmem).2 rfl⟩
    cases listenerNameHint <;> simp [hintScopes]

/-- **A request that the guards refuse owes a token to the buckets of all its calls but the
last.** -/
theorem refused_requestGuards {stamps : GuardStamps}
    (hrefused : (requestGuards listenerNameHint selections stamps controller).1 = false) :
    Refused controller (requestGuards listenerNameHint selections stamps controller).2 := by
  cases listenerNameHint with
  | none => exact refused_pathGuard (paid_start controller) hrefused
  | some listenerName =>
    have hfresh : ∀ scope ∈ (LimiterRequest.listener listenerName).scopes,
        scope ∉ ([] : List RateLimitScope) := fun _ _ => not_mem_nil
    rw [requestGuards, tryRateLimitListener] at hrefused ⊢
    cases hfirst : (GuardState.call { controller } (.listener listenerName) stamps.listener).1 with
    | false =>
      rw [call_eq hfirst]
      exact (paid_start controller).refused hfresh hfirst
    | true =>
      rw [call_eq hfirst] at hrefused ⊢
      exact refused_pathGuard ((paid_start controller).call hfresh hfirst) hrefused

/-! ## The buckets that the calls ask -/

/-- The buckets that the call for the listener of a hint asks. -/
def hintIds (options : HttpRateLimitOptions) : Option String → List BucketId
  | none => []
  | some listenerName => options.bucketIds (LimiterRequest.listener listenerName).asked

/-- The buckets that the first call for the selected route asks. -/
def routeIds (options : HttpRateLimitOptions) (listenerNameHint : Option String)
    (selections : Selections) : List BucketId :=
  ((guardedRoute selections).bind (routeRequest options listenerNameHint)).elim []
    fun request => options.bucketIds request.asked

theorem unpaid_pathGuard {stamps : GuardStamps}
    (hrefused : (pathGuard listenerNameHint selections stamps st).1 = false) :
    (pathGuard listenerNameHint selections stamps st).2.calls.dropLast.flatMap LimiterCall.ids
        = [] ↔
      st.calls.flatMap LimiterCall.ids = [] ∧
        (routeIds options listenerNameHint selections = [] ∨
          st.controller.Short stamps.route (routeIds options listenerNameHint selections)) := by
  obtain ⟨route, request, hselected, hroute, hcases⟩ := pathGuard_cases hrefused
  have hids : routeIds options listenerNameHint selections = options.bucketIds request.asked := by
    rw [routeIds, hselected, Option.bind_some, hroute, Option.elim_some]
  rw [hids, ← call_refused_iff]
  rcases hcases with hst | ⟨hfirst, request', -, hst⟩
  · rw [hst] at hrefused ⊢
    rw [calls_call, dropLast_concat]
    exact (and_iff_left (.inr hrefused)).symm
  · rw [hst, hfirst, calls_call, dropLast_concat, calls_call, flatMap_append, append_eq_nil_iff,
      flatMap_cons, flatMap_nil, append_nil]
    simp only [Bool.true_eq_false, or_false]

/-- **A refused request owes no token** exactly if the call for its hint asks no bucket or is
itself refused, and likewise for the first call for its route. -/
theorem unpaid_requestGuards {stamps : GuardStamps}
    (hrefused : (requestGuards listenerNameHint selections stamps controller).1 = false) :
    (requestGuards listenerNameHint selections stamps controller).2.calls.dropLast.flatMap
        LimiterCall.ids = [] ↔
      controller.Short stamps.listener (hintIds options listenerNameHint) ∨
        hintIds options listenerNameHint = [] ∧
          (routeIds options listenerNameHint selections = [] ∨
            controller.Short stamps.route (routeIds options listenerNameHint selections)) := by
  cases listenerNameHint with
  | none =>
    have hlong : ¬ controller.Short stamps.listener (hintIds options none) :=
      fun ⟨_, hid, _⟩ => absurd hid not_mem_nil
    rw [or_iff_right hlong]
    exact (unpaid_pathGuard hrefused).trans (and_congr_left' (iff_of_true rfl rfl))
  | some listenerName =>
    have hhint : hintIds options (some listenerName)
      = options.bucketIds (LimiterRequest.listener listenerName).asked := rfl
    rw [requestGuards, tryRateLimitListener] at hrefused ⊢
    have hshort := @call_refused_iff _ { controller } (.listener listenerName) stamps.listener
    rw [← hhint] at hshort
    cases hfirst : (GuardState.call { controller } (.listener listenerName) stamps.listener).1 with
    | false =>
      rw [call_eq hfirst, calls_call, dropLast_concat]
      exact iff_of_true rfl (.inl (hshort.mp hfirst))
    | true =>
      rw [call_eq hfirst] at hrefused ⊢
      refine (unpaid_pathGuard hrefused).trans ?_
      have hlong : ¬ controller.Short stamps.listener (hintIds options (some listenerName)) :=
        fun h => by cases hfirst.symm.trans (hshort.mpr h)
      rw [or_iff_right hlong, calls_call]
      refine (and_congr_left' (by simp [hhint])).trans (and_congr_right fun hnil => ?_)
      -- a call that asks no bucket leaves the controller as it is
      rw [controller_call, LimiterRequest.run_eq, ← hhint, hnil, acquire]

end

end

/-- **A request that is answered with status 429 has cost nothing exactly when the call for its
hint asks no bucket or refuses it, and likewise the first call for its route.** -/
theorem rejected_request_free_iff (crate : IpNetCrate) (o : Outcomes)
    {options : HttpRateLimitOptions} (controller : HttpRateLimitController options)
    (listenerNameHint : Option String) (selections : Selections) (stamps : GuardStamps)
    (st : FilterState)
    (hanswered : doRequestFilter crate (o.limitedBy listenerNameHint selections stamps controller)
      selections {} = (.done true, st))
    (hreply : .rateLimited ∈ st.responses) :
    (∀ id, (requestGuards listenerNameHint selections stamps controller).2.controller.tokens id
        = (reference controller
          (requestGuards listenerNameHint selections stamps controller).2.calls).tokens id) ↔
      controller.Short stamps.listener (hintIds options listenerNameHint) ∨
        hintIds options listenerNameHint = [] ∧
          (routeIds options listenerNameHint selections = [] ∨
            controller.Short stamps.route (routeIds options listenerNameHint selections)) := by
  have hrefused : (requestGuards listenerNameHint selections stamps controller).1 = false := by
    rcases refused_of_rateLimited hanswered hreply with hlistener | hroute
    · rw [requestGuards]
      have hlistener' : (tryRateLimitListener listenerNameHint stamps.listener
          ({ controller } : GuardState options)).1 = false := hlistener
      rcases hguard : tryRateLimitListener listenerNameHint stamps.listener
        ({ controller } : GuardState options) with ⟨granted, st⟩
      rw [hguard] at hlistener'
      subst hlistener'
      rfl
    · exact hroute
  rw [(refused_requestGuards hrefused).2.tokens_eq_iff, unpaid_requestGuards hrefused]

/-! ## A route that is over its rate -/

def limitedRoute : SelectedHttpRoute where
  routeName := "orders"
  routeNamespace := "default"
  ruleIndex := some 0
  routeAnnotations := .empty
  listenerName := "default/gw/http"
  listenerProtocol := "LISTENER_PROTOCOL_HTTP"
  filters := []
  matchedHttpPath := { path := "/", pathType := "PathPrefix" }
  backend := some { address := "10.0.0.10", port := 8080, healthy := true }
  backendName := some "default/orders:8080"
  backendError := none
  timeouts := none
  retry := none
  sessionPersistence := none
  backendTls := none
  securityPolicy := none

def limitedOptions : HttpRateLimitOptions where
  globalRequestsPerSecond := 10
  globalBurst := 10
  routeRequestsPerSecond := 1
  routeBurst := 1

def exhausted : HttpRateLimitController limitedOptions :=
  (new limitedOptions 0).put (.route, "Http/default/orders") ⟨0, 0, Nat.zero_le _⟩

def atStart : GuardStamps := ⟨⟨0, fun _ => 0⟩, ⟨0, fun _ => 0⟩, ⟨0, fun _ => 0⟩⟩

/-- Without a hint the request is answered with status 429, too; but one call asks for
everything, and puts back what it took. -/
theorem rejected_request_free_without_hint :
    doRequestFilter cidrBlocks (Outcomes.limitedBy {} none ⟨none, none, some limitedRoute, none⟩
        atStart exhausted) ⟨none, none, some limitedRoute, none⟩ {}
      = (.done true, { events := [.responded .rateLimited] }) ∧
    ∀ id, (requestGuards none ⟨none, none, some limitedRoute, none⟩ atStart
        exhausted).2.controller.tokens id
      = (reference exhausted (requestGuards none ⟨none, none, some limitedRoute, none⟩ atStart
        exhausted).2.calls).tokens id := by
  have hanswered : doRequestFilter cidrBlocks (Outcomes.limitedBy {} none
      ⟨none, none, some limitedRoute, none⟩ atStart exhausted)
        ⟨none, none, some limitedRoute, none⟩ {}
      = (.done true, { events := [.responded .rateLimited] }) := by decide +kernel
  refine ⟨hanswered, (rejected_request_free_iff cidrBlocks {} exhausted none
    ⟨none, none, some limitedRoute, none⟩ atStart { events := [.responded .rateLimited] }
    hanswered (by decide +kernel)).mpr (.inr ⟨rfl, .inr (by decide +kernel)⟩)⟩

/-- **With a hint the request has paid before it is refused**: the bucket of all requests holds nine
tokens where refilling alone leaves ten. -/
theorem rejected_request_pays_global :
    doRequestFilter cidrBlocks (Outcomes.limitedBy {} (some "default/gw/http")
        ⟨none, none, some limitedRoute, none⟩ atStart exhausted)
        ⟨none, none, some limitedRoute, none⟩ {}
      = (.done true, { events := [.responded .rateLimited] }) ∧
    (requestGuards (some "default/gw/http") ⟨none, none, some limitedRoute, none⟩ atStart
        exhausted).2.controller.tokens (.global, "") = 9000 ∧
    (reference exhausted (requestGuards (some "default/gw/http")
        ⟨none, none, some limitedRoute, none⟩ atStart exhausted).2.calls).tokens (.global, "")
      = 10000 := by
  decide +kernel

end NantianGateway.Http
