import NantianGateway.Http.RequestFilter

/-!
# What a forwarded request has been through

A request that `do_request_filter` forwards has met every stage of its path, and each has handed
it on.  So what they leave behind is known: the backend the path selected, and a record of every
check, all of them passed.  A stage that does not hand on has written one response (`Moves`).
-/

namespace NantianGateway.Http

open Text Stages

/-- How a stage may end a request without forwarding it on its path: with a response, or as a
mirrored copy. -/
def Ended (handled : Bool) (st : FilterState) : Prop :=
  handled = true ∨ st.isMirrorSubrequest = true

def Changes (f : FilterState → FilterState) (stage : Stage FilterState) : Prop :=
  Effect Ended f stage

def FilterState.recordAll (events : List FilterEvent) (st : FilterState) : FilterState :=
  { st with events := st.events ++ events }

variable (st : FilterState)

def FilterState.responses : List Reply :=
  st.events.filterMap fun
    | .responded reply => some reply
    | _ => none

theorem responses_record_responded (reply : Reply) :
    (st.record (.responded reply)).responses = st.responses ++ [reply] := by
  simp [FilterState.responses, FilterState.record]

/-- How a stage ends a request: with one more response, which is for the rate only if a guard
refused it, or as a mirrored copy. -/
def EndsFrom (o : Outcomes) (st₀ : FilterState) (handled : Bool) (st : FilterState) : Prop :=
  (handled = true ∧ ∃ reply, st.responses = st₀.responses ++ [reply] ∧
      (reply = .rateLimited → o.listenerWithinRate = false ∨ o.routeWithinRate = false)) ∨
    handled = false ∧ st.isMirrorSubrequest = true ∧ st.responses = st₀.responses

/-- **What a stage does**: it hands on after a change that writes no response, or ends the
request. -/
structure Moves (o : Outcomes) (f : FilterState → FilterState) (stage : Stage FilterState) :
    Prop where
  quiet : ∀ st, (f st).responses = st.responses
  ends : ∀ st, Contract (· = st) (· = f st) (EndsFrom o st) stage

/-! ## Stage by stage -/

section

variable {crate : IpNetCrate} {o : Outcomes} {f g : FilterState → FilterState}
  {stage first second : Stage FilterState} {reply : Reply}

theorem Moves.changes (h : Moves o f stage) : Changes f stage :=
  fun st => (h.ends st).mono (fun _ => id) fun _ _ hends =>
    hends.imp (fun h => h.1) fun h => h.2.1

theorem moves_pass : Moves o id pass := ⟨fun _ => rfl, fun _ => contract_pass⟩

theorem moves_fail : Moves o id fail := ⟨fun _ => rfl, fun _ => contract_fail⟩

theorem moves_update (h : ∀ st, (f st).responses = st.responses) : Moves o f (update f) :=
  ⟨h, fun _ => contract_update fun _ => congrArg f⟩

theorem Moves.andThen (hfirst : Moves o f first) (hsecond : Moves o g second) :
    Moves o (g ∘ f) (first.andThen second) := by
  refine ⟨fun st => (hsecond.quiet _).trans (hfirst.quiet st), fun st =>
    (hfirst.ends st).andThen ((hsecond.ends (f st)).mono (fun _ => id) fun handled st' hends => ?_)⟩
  rwa [EndsFrom, hfirst.quiet] at hends

theorem Moves.when (h : Moves o id stage) (concerned : Bool) :
    Moves o id (stage.when concerned) := by
  cases concerned with
  | true => exact h
  | false => exact moves_pass

theorem endsFrom_responded
    (hreason : reply = .rateLimited → o.listenerWithinRate = false ∨ o.routeWithinRate = false) :
    EndsFrom o st true (st.record (.responded reply)) :=
  .inl ⟨rfl, reply, responses_record_responded st reply, hreason⟩

theorem moves_respond
    (hreason : reply = .rateLimited → o.listenerWithinRate = false ∨ o.routeWithinRate = false) :
    Moves o id (respond o reply) := by
  refine ⟨fun _ => rfl, ?_⟩
  rintro st₀ st rfl
  rw [respond]
  cases o.writes reply with
  | true => exact endsFrom_responded st hreason
  | false => trivial

theorem moves_answer (reply : Reply) (concerned : Bool) (hreply : reply ≠ .rateLimited) :
    Moves o id ((respond o reply).when concerned) :=
  (moves_respond fun h => absurd h hreply).when concerned

theorem moves_rateGuard {withinRate : Bool}
    (h : withinRate = false → o.listenerWithinRate = false ∨ o.routeWithinRate = false) :
    Moves o id (guardStage o withinRate .rateLimited) := by
  cases withinRate with
  | true => exact moves_pass
  | false => exact moves_respond fun _ => h rfl

theorem moves_handler (reply : Reply) (outcome : HandlerOutcome)
    (hreply : reply ≠ .rateLimited) : Moves o id (handler reply outcome) := by
  cases outcome with
  | passes => exact moves_pass
  | handles =>
    refine ⟨fun _ => rfl, ?_⟩
    rintro st₀ st rfl
    exact endsFrom_responded st fun h => absurd h hreply
  | fails => exact moves_fail

theorem moves_check (event : Bool → FilterEvent) (hreply : reply ≠ .rateLimited)
    (hquiet : ∀ passed st, (FilterState.record st (event passed)).responses = st.responses)
    (outcome : HandlerOutcome) :
    Moves o (·.recordAll [event true])
      ((update fun st => st.record (event (outcome == .passes))).andThen
        (handler reply outcome)) := by
  refine ⟨hquiet true, ?_⟩
  rintro st₀ st rfl
  cases outcome with
  | passes => exact rfl
  | handles =>
    refine .inl ⟨rfl, reply, ?_, fun h => absurd h hreply⟩
    rw [responses_record_responded, hquiet]
  | fails => trivial

theorem moves_checkStage (policy : PolicySection) (hreply : reply ≠ .rateLimited)
    (outcome : HandlerOutcome) :
    Moves o (·.recordAll [.checked policy true]) (checkStage policy reply outcome) :=
  moves_check (.checked policy) hreply
    (fun _ _ => by simp [FilterState.responses, FilterState.record]) outcome

variable (policy : Option SecurityPolicyConfig)

def ipChecks : List FilterEvent :=
  (policy.bind (·.ip)).toList.map fun config => .checked (.ip config) true

def oidcChecks : List FilterEvent :=
  ((policy.bind (·.authn)).bind (·.oidc)).toList.map fun config => .checked (.oidc config) true

def basicAuthChecks : List FilterEvent :=
  ((policy.bind (·.authn)).bind (·.basicAuth)).toList.map fun config =>
    .checked (.basicAuth config) true

def jwtChecks (filters : List Filter) : List FilterEvent :=
  (jwtAuthFilter filters).toList.map fun filter => .jwtFilterChecked filter true

theorem moves_nothing (h : Moves o id stage) : Moves o (·.recordAll []) stage := by
  have hid : (fun st : FilterState => st.recordAll []) = id := by
    funext st
    simp [FilterState.recordAll]
  rw [hid]
  exact h

section

variable (route : SelectedHttpRoute)

theorem moves_ipFilterStage :
    Moves o (·.recordAll (ipChecks route.securityPolicy)) (ipFilterStage crate o route) := by
  unfold ipFilterStage ipChecks
  cases route.securityPolicy.bind (·.ip) with
  | none => exact moves_nothing moves_pass
  | some config => exact moves_checkStage _ (by simp) _

theorem moves_oidcStage :
    Moves o (·.recordAll (oidcChecks route.securityPolicy)) (oidcStage o route) := by
  unfold oidcStage oidcChecks
  cases (route.securityPolicy.bind (·.authn)).bind (·.oidc) with
  | none => exact moves_nothing moves_pass
  | some config => exact moves_checkStage _ (by simp) _

theorem moves_basicAuthStage :
    Moves o (·.recordAll (basicAuthChecks route.securityPolicy)) (basicAuthStage o route) := by
  unfold basicAuthStage basicAuthChecks
  cases (route.securityPolicy.bind (·.authn)).bind (·.basicAuth) with
  | none => exact moves_nothing moves_pass
  | some config => exact moves_checkStage _ (by simp) _

theorem moves_jwtAuthStage :
    Moves o (·.recordAll (jwtChecks route.filters)) (jwtAuthStage o route) := by
  unfold jwtAuthStage jwtChecks
  cases jwtAuthFilter route.filters with
  | none => exact moves_nothing moves_pass
  | some filter =>
    exact moves_check (.jwtFilterChecked filter) (by simp)
      (fun _ _ => by simp [FilterState.responses, FilterState.record]) _

end

theorem moves_authBodyStage (auth : ExternalAuthFilter) : Moves o id (authBodyStage o auth) := by
  unfold authBodyStage
  cases auth.forwardBodyMaxSize.filter (0 < ·) with
  | none => exact moves_pass
  | some maxSize =>
    dsimp only
    cases readBody _ o.authBodyReads 0 with
    | complete => exact moves_pass
    | tooLarge => exact moves_respond (by simp)
    | error => exact moves_fail

theorem moves_authDecisionStage : Moves o id (authDecisionStage o) := by
  unfold authDecisionStage
  rcases o.authDecision with _ | (_ | _) | _
  · exact moves_pass
  · exact moves_fail
  · exact moves_respond (by simp)
  · exact moves_respond (by simp)

variable (route : SelectedHttpRoute)

theorem moves_externalAuthStage : Moves o id (externalAuthStage o route) := by
  unfold externalAuthStage
  cases externalAuthFilter route.filters with
  | none => exact moves_pass
  | some auth =>
    exact .andThen (moves_answer .authUnavailable _ nofun) <| .andThen (moves_authBodyStage auth) <|
      .andThen moves_authDecisionStage moves_pass

theorem moves_wasmStage : Moves o id (wasmStage o) := by
  unfold wasmStage
  rcases o.wasm with _ | _ | _ | _
  · exact moves_pass
  · exact moves_pass
  · exact moves_respond (by simp)
  · exact moves_pass

variable (o) in
def takeBackend (route : SelectedHttpRoute) (st : FilterState) : FilterState :=
  match selectedBackendFromHttpRoute route o.accessLogEnabled with
  | .ok (some selected) => { st with selectedBackend := some selected, fastSelectedBackend := none }
  | _ => st

variable (selected : SelectedBackend)

theorem moves_cacheSelected :
    Moves o (fun st => { st with selectedBackend := some selected, fastSelectedBackend := none })
      (cacheSelectedBackendState selected) :=
  moves_update fun _ => rfl

theorem moves_backendStage : Moves o (takeBackend o route) (backendStage o route) := by
  unfold backendStage takeBackend
  rcases selectedBackendFromHttpRoute route o.accessLogEnabled with _ | _ | selected
  · exact moves_fail
  · exact moves_pass
  · exact .andThen (moves_fail.when _) <| .andThen (moves_cacheSelected selected) <|
      .andThen (moves_handler .cacheHit _ nofun) moves_pass

variable (o) in
def httpRouteEffect (route : SelectedHttpRoute) (st : FilterState) : FilterState :=
  takeBackend o route ((((st.recordAll (ipChecks route.securityPolicy)).recordAll
    (oidcChecks route.securityPolicy)).recordAll (basicAuthChecks route.securityPolicy)).recordAll
      (jwtChecks route.filters))

theorem moves_mirrorStage : Moves o id (mirrorStage o) := by
  unfold mirrorStage
  cases o.mirrorSubrequest with
  | none => exact moves_pass
  | some selected =>
    refine ⟨fun _ => rfl, ?_⟩
    rintro st₀ st rfl
    exact .inr ⟨rfl, rfl, rfl⟩

/-! ## Path by path -/

theorem moves_entryStages : Moves o resetRequestContext (runStages (entryStages o)) :=
  .andThen (moves_update (f := resetRequestContext) fun _ => rfl) <|
    .andThen (moves_fail.when _) <|
    .andThen (moves_answer .misdirected _ nofun) <|
    .andThen moves_mirrorStage <|
    .andThen (moves_answer .headerTooLarge _ nofun) <|
    .andThen (moves_answer .bodyTooLarge _ nofun) <|
    .andThen (moves_answer .overloaded _ nofun) <|
    .andThen (moves_rateGuard .inl) moves_pass

theorem moves_httpRouteStages :
    Moves o (httpRouteEffect o route) (runStages (httpRouteStages crate o route)) :=
  (moves_fail.when _).andThen <|
    (moves_answer .overloaded _ nofun).andThen <|
    (moves_rateGuard .inr).andThen <|
    (moves_fail.when _).andThen <|
    (moves_handler .corsPreflight _ nofun).andThen <|
    (moves_answer .directResponse _ nofun).andThen <|
    (moves_answer .redirect _ nofun).andThen <|
    (moves_ipFilterStage route).andThen <|
    (moves_oidcStage route).andThen <|
    (moves_basicAuthStage route).andThen <|
    (moves_jwtAuthStage route).andThen <|
    (moves_externalAuthStage route).andThen <|
    (moves_backendStage route).andThen <|
    moves_wasmStage.andThen moves_pass

theorem moves_fastPathStages (selected : CompiledSelectedHttpBackend) :
    Moves o (fun st => { st with selectedBackend := none, fastSelectedBackend := some selected })
      (runStages (fastPathStages o selected).dropLast) :=
  .andThen (moves_fail.when _) <|
    .andThen (moves_answer .overloaded _ nofun) <|
    .andThen (moves_rateGuard .inr) <|
    .andThen (moves_update (f := fun st =>
      { st with selectedBackend := none, fastSelectedBackend := selected }) fun _ => rfl) <|
    .andThen (moves_handler .cacheHit _ nofun) moves_pass

theorem moves_grpcStages :
    Moves o (fun st => { st with selectedBackend := some selected, fastSelectedBackend := none })
      (runStages (grpcStages o selected).dropLast) :=
  .andThen (moves_fail.when _) <|
    .andThen (moves_fail.when _) <|
    .andThen (moves_answer .overloaded _ nofun) <|
    .andThen (moves_rateGuard .inr) <|
    .andThen (moves_fail.when _) <|
    .andThen (moves_answer .directResponse _ nofun) <|
    .andThen (moves_handler .corsPreflight _ nofun) <|
    .andThen (moves_cacheSelected selected) moves_pass

theorem moves_fallbackStages :
    Moves o (fun st => { st with selectedBackend := some selected, fastSelectedBackend := none })
      (runStages (fallbackStages o selected).dropLast) :=
  .andThen (moves_fail.when _) <|
    .andThen (moves_fail.when _) <|
    .andThen (moves_fail.when _) <|
    .andThen (moves_handler .corsPreflight _ nofun) <|
    .andThen (moves_cacheSelected selected) <|
    .andThen (moves_handler .cacheHit _ nofun) moves_pass

theorem moves_noRoute :
    Moves o id (runStages [respond o (if o.requestIsGrpc then .grpcNoRoute else .routeNotFound)]) :=
  .andThen (moves_respond (by split <;> simp)) moves_pass

/-! ## The state of a forwarded request -/

variable (o) in
def forwardedState (selections : Selections) : FilterState :=
  match selections.fastPath, selections.grpc, selections.http, selections.fallback with
  | some selected, _, _, _ => { fastSelectedBackend := some selected }
  | none, some selected, _, _ => { selectedBackend := some selected }
  | none, none, some route, _ => httpRouteEffect o route {}
  | none, none, none, some selected => { selectedBackend := some selected }
  | none, none, none, none => {}

/-- A forwarded request; a mirrored copy is none. -/
def Forwarded (crate : IpNetCrate) (o : Outcomes) (selections : Selections) : Prop :=
  ∃ st, doRequestFilter crate o selections {} = (.done false, st) ∧ st.isMirrorSubrequest = false

/-- How a call ends: without forwarding, or with the state of the path, perhaps after a response
of the AI gateway. -/
def Leaves (st₀ : FilterState) (handled : Bool) (st : FilterState) : Prop :=
  Ended handled st ∨ st = st₀ ∨ st = st₀.record (.responded .aiRejected)

theorem leaves_of_changes {f : FilterState → FilterState} {stage : Stage FilterState}
    (h : Changes f stage) (st₀ st : FilterState) :
    Contract (· = st) (· = f st) (Leaves st₀) stage :=
  (h st).mono (fun _ => id) fun _ _ => .inl

theorem leaves_of_finish (stages : List (Stage FilterState)) {f : FilterState → FilterState}
    (h : Changes f (runStages stages)) (st : FilterState) :
    Contract (· = st) (· = f st) (Leaves (f st)) (runStages (stages ++ [finish false])) := by
  have hfinish : Contract (· = f st) (· = f st) (Leaves (f st)) (runStages [finish false]) :=
    Contract.andThen (contract_finish fun _ hst => .inr (.inl hst)) contract_pass
  intro s hs
  rw [runStages_append]
  exact ((leaves_of_changes h (f st) st).andThen hfinish) s hs

variable (selections : Selections)

theorem leaves_pathStages : Contract (· = ({} : FilterState)) (· = forwardedState o selections)
      (Leaves (forwardedState o selections)) (runStages (pathStages crate o selections)) := by
  obtain ⟨fast, grpc, http, fallback⟩ := selections
  cases fast with
  | some selected => exact leaves_of_finish _ (moves_fastPathStages selected).changes {}
  | none =>
    cases grpc with
    | some selected => exact leaves_of_finish _ (moves_grpcStages selected).changes {}
    | none =>
      cases http with
      | some route => exact leaves_of_changes (moves_httpRouteStages route).changes _ {}
      | none =>
        cases fallback with
        | some selected => exact leaves_of_finish _ (moves_fallbackStages selected).changes {}
        | none => exact leaves_of_changes moves_noRoute.changes _ {}

theorem leaves_aiStage (st : FilterState) :
    Contract (· = st) (fun st' => st' = st ∨ st' = st.record (.responded .aiRejected)) (Leaves st)
      (aiStage o) := by
  have hquiet : ∀ {stage : Stage FilterState}, Moves o id stage → Contract (· = st)
      (fun st' => st' = st ∨ st' = st.record (.responded .aiRejected)) (Leaves st) stage :=
    fun h => (leaves_of_changes h.changes st st).mono (fun _ => .inl) fun _ _ => id
  unfold aiStage
  cases o.ai with
  | none => exact hquiet moves_pass
  | some ai =>
    dsimp only
    cases ai.processesPath with
    | false => exact contract_finish fun _ hst => .inr (.inl hst)
    | true =>
      cases readBody (aiRequestBodyLimitExceeded · · ai.maxRequestBodyBytes) ai.bodyReads 0 with
      | tooLarge | error => exact hquiet (moves_respond (by simp))
      | complete =>
        cases ai.preProcess with
        | processed | unsupportedFormat => exact hquiet moves_pass
        | failed =>
          rintro st' rfl
          dsimp only
          cases o.writes .aiRejected with
          | true => exact .inr rfl
          | false => trivial

theorem leaves_doRequestFilter :
    Contract (· = ({} : FilterState)) (fun _ => False) (Leaves (forwardedState o selections))
      (doRequestFilter crate o selections) := by
  have hbefore : Contract (· = ({} : FilterState)) (· = forwardedState o selections)
      (Leaves (forwardedState o selections))
      (runStages (entryStages o ++ pathStages crate o selections)) := by
    intro st hst
    rw [runStages_append]
    exact ((leaves_of_changes moves_entryStages.changes (forwardedState o selections) {}).andThen
      (leaves_pathStages selections)) st hst
  refine hbefore.andThen ((leaves_aiStage _).andThen (contract_finish fun st hst => ?_))
  exact .inr hst

/-- **The state of a forwarded request**: what its path left, and the response of an AI gateway
that failed. -/
theorem forwarded_eq {selections : Selections} {st : FilterState}
    (h : doRequestFilter crate o selections {} = (.done false, st))
    (horiginal : st.isMirrorSubrequest = false) :
    st = forwardedState o selections ∨
      st = (forwardedState o selections).record (.responded .aiRejected) := by
  have hleaves := @leaves_doRequestFilter crate o selections {} rfl
  rw [h] at hleaves
  rcases hleaves with (htrue | hmirror) | hstate
  · cases htrue
  · rw [horiginal] at hmirror
    cases hmirror
  · exact hstate

end

end NantianGateway.Http
