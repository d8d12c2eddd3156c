import NantianGateway.Ir.StreamSelection
import NantianGateway.SharedTls.ListenerPlan

/-!
# Choosing a listener by server name

`select_listener_match`: of the listeners of a surface, the one whose hostnames fit the server
name best, and among equally good ones one with a route.  The crate normalises names by itself ---
trimmed, without trailing dots, in lower case --- and reads the routes through the lists of the
snapshot.
-/

namespace NantianGateway.SharedTls

open Text

/-! ## Hostnames -/

structure TlsListenerScore where
  rank : ℕ := 0
  length : ℕ := 0
  deriving DecidableEq

instance : LinearOrder TlsListenerScore :=
  LinearOrder.lift' (fun s => toLex (s.rank, s.length)) fun s t h => by
    cases s; cases t; cases h; rfl

/-- A wildcard accepts a host that ends in its suffix after a dot. -/
def hostnameMatches (pattern host : String) : Bool :=
  let pattern := normalizeTlsServerName pattern
  let host := normalizeTlsServerName host
  if pattern = "" ∨ host = "" then false
  else if pattern = host then true
  else
    match stripFront "*." pattern with
    | none => false
    | some suffix =>
      host != suffix && endsWith host suffix && (afterDot (len suffix) host.toList).isSome

def hostnameMatchScore (pattern serverName : String) : Option TlsListenerScore :=
  let normalized := normalizeTlsServerName pattern
  if normalized = "" then none
  else
    match stripFront "*." normalized with
    | some suffix =>
      if hostnameMatches normalized serverName then some { rank := 1, length := len suffix }
      else none
    | none =>
      if normalized = serverName then some { rank := 2, length := len normalized } else none

variable (hostnames : List String) (serverName : Option String)

def listenerHostnameScore : Option TlsListenerScore :=
  if hostnames = [] then some {}
  else
    serverName.bind fun serverName =>
      let serverName := normalizeTlsServerName serverName
      if serverName = "" then none
      else
        Best.maxBy id (hostnames.filterMap fun hostname => hostnameMatchScore hostname serverName)

def routeHostnamesMatch : Bool :=
  if hostnames = [] then true
  else
    match serverName.map normalizeTlsServerName with
    | none => false
    | some serverName =>
      if serverName = "" then false
      else hostnames.any fun hostname => hostnameMatches hostname serverName

/-! ## Routes -/

def streamRuleMatchesListenerWithMode («matches» : List StreamMatch) (listenerPort : UInt32)
    (serverName : Option String) (mode : TlsRouteMode) : Bool :=
  if «matches» = [] then mode == .passthrough
  else
    «matches».any fun item =>
      if item.mode ≠ mode then false
      else if item.port ≠ 0 ∧ item.port ≠ listenerPort then false
      else if item.sniHostname = "" then true
      else routeHostnamesMatch [item.sniHostname] serverName

def isTlsRouteKind (kind : String) : Bool :=
  kind ∈ ["ROUTE_KIND_TLS", "TLS", "TLSRoute", "ROUTE_KIND_TLSROUTE"]

section

variable (snapshot : Snapshot) (listener : Listener) (serverName : Option String)

def listenerHasMatchingTlsRouteWithMode (mode : TlsRouteMode) : Bool :=
  listener.attachedRoutes.any fun routeKey =>
    snapshot.streamRoutes.any fun route =>
      routeKey == streamRouteName route && isTlsRouteKind route.kind && route.rules.any fun rule =>
          streamRuleMatchesListenerWithMode rule.matches listener.port serverName mode

def listenerHasMatchingPassthroughTlsRoute : Bool :=
  listenerHasMatchingTlsRouteWithMode snapshot listener serverName .passthrough

def listenerHasMatchingTerminatedTlsRoute : Bool :=
  listenerHasMatchingTlsRouteWithMode snapshot listener serverName .terminate

def listenerHasMatchingHttpRoute : Bool :=
  listener.attachedRoutes.any fun routeKey =>
    snapshot.httpRoutes.any fun route =>
      routeKey == route.namespace ++ "/" ++ route.name
        && routeHostnamesMatch route.hostnames serverName

def listenerHasMatchingTerminateRoute : Bool :=
  listenerHasMatchingHttpRoute snapshot listener serverName
    || listenerHasMatchingTerminatedTlsRoute snapshot listener serverName

end

def terminateMatchUsesTlsStreamRoute (snapshot : Snapshot) (listenerName : String)
    (serverName : Option String) : Bool :=
  (snapshot.listeners.find? fun listener => listener.name = listenerName).any fun listener =>
    listenerHasMatchingTerminatedTlsRoute snapshot listener serverName

/-! ## The choice -/

structure SharedTlsListenerMatch where
  listenerName : String
  score : TlsListenerScore
  hasRoute : Bool
  deriving DecidableEq

section

variable (snapshot : Snapshot) (listenerNames : List String) (serverName : Option String)
  (hasMatchingRoute : Snapshot → Listener → Option String → Bool)

def listenerCandidate (listenerName : String) : Option SharedTlsListenerMatch :=
  (snapshot.listeners.find? fun listener => listener.name = listenerName).bind fun listener =>
    (listenerHostnameScore listener.hostnames serverName).map fun score =>
      ⟨listener.name, score, hasMatchingRoute snapshot listener serverName⟩

def matchStep (selected : Option SharedTlsListenerMatch) (listenerName : String) :
    Option SharedTlsListenerMatch :=
  match listenerCandidate snapshot serverName hasMatchingRoute listenerName with
  | none => selected
  | some candidate =>
    if selected.any fun current => decide (candidate.score < current.score)
        || (current.score == candidate.score && (current.hasRoute || !candidate.hasRoute)) then
      selected
    else some candidate

def selectListenerMatch : Option SharedTlsListenerMatch :=
  listenerNames.foldl (matchStep snapshot serverName hasMatchingRoute) none

def selectSharedTlsListeners (passthroughListenerNames terminateListenerNames : List String) :
    Option SharedTlsListenerMatch × Option SharedTlsListenerMatch :=
  (selectListenerMatch snapshot passthroughListenerNames serverName
      listenerHasMatchingPassthroughTlsRoute,
    selectListenerMatch snapshot terminateListenerNames serverName
      listenerHasMatchingTerminateRoute)

/-- **A best match**: a named listener whose hostnames fit, with no named listener that fits better,
and with a route if an equally good listener has one. -/
structure BestMatch (m : SharedTlsListenerMatch) : Prop where
  named : ∃ name ∈ listenerNames,
    listenerCandidate snapshot serverName hasMatchingRoute name = some m
  score_le : ∀ name ∈ listenerNames, ∀ candidate,
    listenerCandidate snapshot serverName hasMatchingRoute name = some candidate →
      candidate.score ≤ m.score
  route : ∀ name ∈ listenerNames, ∀ candidate,
    listenerCandidate snapshot serverName hasMatchingRoute name = some candidate →
      candidate.score = m.score → candidate.hasRoute = true → m.hasRoute = true

end

/-- What the loop compares: the score, and then whether there is a route. -/
def SharedTlsListenerMatch.key (m : SharedTlsListenerMatch) : TlsListenerScore ×ₗ Bool :=
  toLex (m.score, m.hasRoute)

theorem SharedTlsListenerMatch.key_le_iff {candidate current : SharedTlsListenerMatch} :
    candidate.key ≤ current.key ↔ candidate.score < current.score ∨
      (candidate.score = current.score ∧
        (candidate.hasRoute = true → current.hasRoute = true)) := by
  rw [SharedTlsListenerMatch.key, SharedTlsListenerMatch.key, Prod.Lex.toLex_le_toLex,
    Bool.le_iff_imp]

section

variable {snapshot : Snapshot} {listenerNames : List String} {serverName : Option String}
  {hasMatchingRoute : Snapshot → Listener → Option String → Bool} {m m' : SharedTlsListenerMatch}

theorem selectListenerMatch_eq :
    selectListenerMatch snapshot listenerNames serverName hasMatchingRoute
      = (listenerNames.filterMap (listenerCandidate snapshot serverName hasMatchingRoute)).argmax
          SharedTlsListenerMatch.key := by
  rw [← Best.foldl_keepFirst, List.foldl_filterMap, selectListenerMatch]
  refine List.foldl_ext _ _ _ fun selected name _ => ?_
  rw [matchStep]
  cases hcandidate : listenerCandidate snapshot serverName hasMatchingRoute name with
  | none => rfl
  | some candidate =>
    have hany : (selected.any fun current => decide (candidate.score < current.score)
          || (current.score == candidate.score && (current.hasRoute || !candidate.hasRoute)))
        = selected.any fun current => decide (candidate.key ≤ current.key) := by
      refine congrArg (Option.any · selected) (funext fun current => ?_)
      rw [Bool.eq_iff_iff, decide_eq_true_iff, SharedTlsListenerMatch.key_le_iff]
      have hcomm : current.score = candidate.score ↔ candidate.score = current.score := eq_comm
      cases candidate.hasRoute <;> cases current.hasRoute <;> simp [hcomm]
    simp only [Best.keepFirst, hany]

theorem bestMatch_iff : BestMatch snapshot listenerNames serverName hasMatchingRoute m ↔
      m ∈ listenerNames.filterMap (listenerCandidate snapshot serverName hasMatchingRoute) ∧
      ∀ candidate ∈ listenerNames.filterMap
        (listenerCandidate snapshot serverName hasMatchingRoute), candidate.key ≤ m.key := by
  simp only [List.mem_filterMap, SharedTlsListenerMatch.key_le_iff]
  constructor
  · intro h
    refine ⟨h.named, ?_⟩
    rintro candidate ⟨name, hname, hcandidate⟩
    rcases lt_or_eq_of_le (h.score_le name hname candidate hcandidate) with hlt | heq
    · exact .inl hlt
    · exact .inr ⟨heq, h.route name hname candidate hcandidate heq⟩
  · rintro ⟨hnamed, hbest⟩
    refine ⟨hnamed, fun name hname candidate hcandidate => ?_,
      fun name hname candidate hcandidate heq hroute => ?_⟩
    · rcases hbest candidate ⟨name, hname, hcandidate⟩ with hlt | ⟨heq, -⟩
      · exact hlt.le
      · exact heq.le
    · rcases hbest candidate ⟨name, hname, hcandidate⟩ with hlt | ⟨-, himp⟩
      · exact absurd heq hlt.ne
      · exact himp hroute

theorem bestMatch_of_select
    (h : selectListenerMatch snapshot listenerNames serverName hasMatchingRoute = some m) :
    BestMatch snapshot listenerNames serverName hasMatchingRoute m := by
  rw [selectListenerMatch_eq] at h
  exact bestMatch_iff.mpr ⟨List.argmax_mem h, fun candidate hcandidate =>
    List.le_of_mem_argmax hcandidate h⟩

section

variable (h : BestMatch snapshot listenerNames serverName hasMatchingRoute m)

include h

theorem BestMatch.score_eq (h' : BestMatch snapshot listenerNames serverName hasMatchingRoute m') :
    m.score = m'.score := by
  obtain ⟨name, hname, hcandidate⟩ := h.named
  obtain ⟨name', hname', hcandidate'⟩ := h'.named
  exact le_antisymm (h'.score_le name hname m hcandidate) (h.score_le name' hname' m' hcandidate')

theorem BestMatch.hasRoute_eq
    (h' : BestMatch snapshot listenerNames serverName hasMatchingRoute m') :
    m.hasRoute = m'.hasRoute := by
  obtain ⟨name, hname, hcandidate⟩ := h.named
  obtain ⟨name', hname', hcandidate'⟩ := h'.named
  rw [Bool.eq_iff_iff]
  exact ⟨h'.route name hname m hcandidate (h.score_eq h'),
    h.route name' hname' m' hcandidate' (h'.score_eq h)⟩

theorem exists_select_of_bestMatch :
    ∃ selected, selectListenerMatch snapshot listenerNames serverName hasMatchingRoute
        = some selected ∧ selected.score = m.score ∧ selected.hasRoute = m.hasRoute := by
  cases hselect : selectListenerMatch snapshot listenerNames serverName hasMatchingRoute with
  | none =>
    rw [selectListenerMatch_eq, List.argmax_eq_none] at hselect
    exact absurd ((bestMatch_iff.mp h).1) (by rw [hselect]; exact List.not_mem_nil)
  | some selected =>
    have hbest := bestMatch_of_select hselect
    exact ⟨selected, rfl, hbest.score_eq h, hbest.hasRoute_eq h⟩

end

end

end NantianGateway.SharedTls
