import NantianGateway.SharedTls.ListenerChoice

/-!
# Passing a connection through or ending its TLS

`handle_connection` chooses a listener on each surface of the address for the server name.  A
listener with a route is preferred to one without, and the passthrough surface to the terminate
surface; the scores are only looked at when the passthrough listener has *no* route.
-/

namespace NantianGateway.SharedTls

open Text

/-! ## Dispatch -/

/-- What a connection meets. -/
structure ConnectionEnv where
  /-- The snapshot the listeners are chosen from. -/
  selection : Snapshot
  /-- The snapshot that says whether a terminated connection goes to a TLS route. -/
  routing : Snapshot
  /-- The snapshot the backend is selected from. -/
  dispatch : Snapshot
  now : Instant
  terminateTls : TerminateSurface → Except SharedTlsError Unit
  connect : String → Except String Unit
  processAcceptedStream : Except String Unit

inductive TlsCall where
  | proxyPassthrough (listenerName : String)
  | terminateTls (surface : TerminateSurface)
  | proxyTerminatedStream (listenerName : String)
  | processAcceptedStream
  deriving DecidableEq

structure ConnectionOutcome where
  calls : List TlsCall := []
  result : Except SharedTlsError Unit
  state : SelectionState

namespace ConnectionEnv

variable (env : ConnectionEnv) (listenerName : String) (serverName : Option String)
  (st : SelectionState)

def proxyStream (mode : TlsRouteMode) (unmatched : String) :
    Except SharedTlsError Unit × SelectionState :=
  match env.dispatch.selectTlsStreamBackend listenerName serverName mode env.now st with
  | (none, st) => (.error (.certificate (unmatched ++ listenerName)), st)
  | (some selected, st) =>
    match env.connect (selected.backend.address ++ ":" ++ portText selected.backend.port) with
    | .error message => (.error (.bind message), st)
    | .ok () => (.ok (), st)

def proxyPassthrough : Except SharedTlsError Unit × SelectionState :=
  env.proxyStream listenerName serverName st .passthrough
    "no tls passthrough route matched listener "

def proxyTerminatedStream : Except SharedTlsError Unit × SelectionState :=
  env.proxyStream listenerName serverName st .terminate "no terminated tls route matched listener "

end ConnectionEnv

/-! ## The connection -/

def passthroughWinner (passthroughMatch terminateMatch : Option SharedTlsListenerMatch) :
    Option SharedTlsListenerMatch :=
  passthroughMatch.filter fun listenerMatch =>
    let terminateHasBetterRoute := terminateMatch.any fun candidate =>
      candidate.hasRoute && decide (listenerMatch.score ≤ candidate.score)
    listenerMatch.hasRoute || !terminateHasBetterRoute

section

variable (env : ConnectionEnv) (bind : PlannedSharedTlsBind) (serverName : Option String)
  (st : SelectionState)

def handleTerminated (terminate : TerminateSurface)
    (terminateMatch : Option SharedTlsListenerMatch) : ConnectionOutcome :=
  match terminateMatch.filter fun listenerMatch =>
    terminateMatchUsesTlsStreamRoute env.routing listenerMatch.listenerName serverName with
  | some listenerMatch =>
    let (result, st) := env.proxyTerminatedStream listenerMatch.listenerName serverName st
    ⟨[.terminateTls terminate, .proxyTerminatedStream listenerMatch.listenerName], result, st⟩
  | none =>
    ⟨[.terminateTls terminate, .processAcceptedStream],
      env.processAcceptedStream.mapError fun message =>
        .handshake ("process accepted stream: " ++ message), st⟩

def handleTermination (terminateMatch : Option SharedTlsListenerMatch) : ConnectionOutcome :=
  match bind.terminate with
  | none => ⟨[], .error (.bind ("no terminate surface for bind " ++ bind.bind)), st⟩
  | some terminate =>
    if bind.passthrough.isSome && !terminateMatch.any SharedTlsListenerMatch.hasRoute then
      ⟨[], .error (.handshake ("no shared tls listener route matched SNI " ++ serverName.getD ""
        ++ " on bind " ++ bind.bind)), st⟩
    else if bind.passthrough.isNone && terminateMatch.isNone then
      ⟨[], .error (.handshake ("no terminate listener matched SNI " ++ serverName.getD ""
        ++ " on bind " ++ bind.bind)), st⟩
    else
      match env.terminateTls terminate with
      | .error error => ⟨[.terminateTls terminate], .error error, st⟩
      | .ok () => handleTerminated env serverName st terminate terminateMatch

def handleConnection (clientHello : Except SharedTlsError (Option String)) : ConnectionOutcome :=
  match clientHello with
  | .error error => ⟨[], .error error, st⟩
  | .ok serverName =>
    let (passthroughMatch, terminateMatch) := selectSharedTlsListeners env.selection serverName
      ((bind.passthrough.map PassthroughSurface.listenerNames).getD [])
      ((bind.terminate.map TerminateSurface.listenerNames).getD [])
    match passthroughWinner passthroughMatch terminateMatch with
    | some listenerMatch =>
      let (result, st) := env.proxyPassthrough listenerMatch.listenerName serverName st
      ⟨[.proxyPassthrough listenerMatch.listenerName], result, st⟩
    | none => handleTermination env bind serverName st terminateMatch

variable (m : SharedTlsListenerMatch)

/-- A best listener of the passthrough surface. -/
def BestPassthrough : Prop :=
  BestMatch env.selection ((bind.passthrough.map PassthroughSurface.listenerNames).getD [])
    serverName listenerHasMatchingPassthroughTlsRoute m

def BestTerminate : Prop :=
  BestMatch env.selection ((bind.terminate.map TerminateSurface.listenerNames).getD [])
    serverName listenerHasMatchingTerminateRoute m

variable (out : ConnectionOutcome)

/-- The connection is handed to the passthrough surface, on a best listener, and nothing else is
done with it. -/
def PassesThrough : Prop :=
  ∃ m, BestPassthrough env bind serverName m ∧ out.calls = [.proxyPassthrough m.listenerName]

/-- The TLS of the connection is ended with the identities of the terminate surface, and what is
inside goes nowhere but to a best listener or the HTTP service. -/
def Terminates : Prop :=
  ∃ surface, bind.terminate = some surface ∧ .terminateTls surface ∈ out.calls ∧
    (∀ listenerName, .proxyPassthrough listenerName ∉ out.calls) ∧
    ∀ listenerName, .proxyTerminatedStream listenerName ∈ out.calls →
      ∃ m, BestTerminate env bind serverName m ∧ m.listenerName = listenerName

end

/-! ## What is done -/

section

variable {env : ConnectionEnv} {bind : PlannedSharedTlsBind} {serverName : Option String}
  {st : SelectionState} {p t : SharedTlsListenerMatch}

theorem PassesThrough.not_terminates {out : ConnectionOutcome}
    (h : PassesThrough env bind serverName out) : ¬ Terminates env bind serverName out := by
  obtain ⟨m, -, hcalls⟩ := h
  rintro ⟨surface, -, hmem, -⟩
  rw [hcalls] at hmem
  simp at hmem

theorem handleConnection_passes (hp : BestPassthrough env bind serverName p)
    (hwins : p.hasRoute = true ∨ ∀ t, BestTerminate env bind serverName t → t.hasRoute = true →
      t.score < p.score) :
    PassesThrough env bind serverName (handleConnection env bind st (.ok serverName)) := by
  obtain ⟨selected, hselected, hscore, hroute⟩ := exists_select_of_bestMatch hp
  have hwinner : passthroughWinner (some selected) (selectListenerMatch env.selection
        ((bind.terminate.map TerminateSurface.listenerNames).getD []) serverName
        listenerHasMatchingTerminateRoute) = some selected := by
    rw [passthroughWinner, Option.filter_some, if_pos]
    rw [Bool.or_eq_true, Bool.not_eq_true', hroute]
    refine hwins.imp_right fun hlt => ?_
    cases hcandidate : selectListenerMatch env.selection
        ((bind.terminate.map TerminateSurface.listenerNames).getD []) serverName
        listenerHasMatchingTerminateRoute with
    | none => rfl
    | some candidate =>
      by_cases hcandidateRoute : candidate.hasRoute = true
      · have := hlt candidate (bestMatch_of_select hcandidate) hcandidateRoute
        simp [hscore, this]
      · simp [hcandidateRoute]
  refine ⟨selected, bestMatch_of_select hselected, ?_⟩
  rw [handleConnection, selectSharedTlsListeners]
  simp only [hselected, hwinner]

theorem handleConnection_terminates (ht : BestTerminate env bind serverName t)
    (hroute : t.hasRoute = true)
    (hwins : ∀ p, BestPassthrough env bind serverName p → p.hasRoute = false ∧ p.score ≤ t.score) :
    Terminates env bind serverName (handleConnection env bind st (.ok serverName)) := by
  obtain ⟨selected, hselected, hscore, hselectedRoute⟩ := exists_select_of_bestMatch ht
  have hnone : passthroughWinner (selectListenerMatch env.selection
        ((bind.passthrough.map PassthroughSurface.listenerNames).getD []) serverName
        listenerHasMatchingPassthroughTlsRoute) (some selected) = none := by
    rw [passthroughWinner, Option.filter_eq_none_iff]
    intro listenerMatch hmatch
    obtain ⟨hno, hle⟩ := hwins listenerMatch (bestMatch_of_select hmatch)
    simp [hno, hselectedRoute, hroute, hscore, hle]
  have hsurface : ∃ surface, bind.terminate = some surface := by
    cases hterminate : bind.terminate with
    | none =>
      obtain ⟨name, hname, -⟩ := ht.named
      rw [hterminate] at hname
      exact absurd hname List.not_mem_nil
    | some surface => exact ⟨surface, rfl⟩
  obtain ⟨surface, hsurface⟩ := hsurface
  have hout : handleConnection env bind st (.ok serverName) = match env.terminateTls surface with
        | .error error => ⟨[.terminateTls surface], .error error, st⟩
        | .ok () => handleTerminated env serverName st surface (some selected) := by
    rw [handleConnection, selectSharedTlsListeners]
    simp only [hselected, hnone]
    rw [handleTermination, hsurface]
    simp [hselectedRoute, hroute]
  refine ⟨surface, hsurface, ?_⟩
  rw [hout]
  cases env.terminateTls surface with
  | error error => simp
  | ok u =>
    simp only [handleTerminated]
    split
    · next listenerMatch hfilter =>
      obtain rfl := Option.some.inj (Option.filter_eq_some_iff.mp hfilter).1
      refine ⟨by simp, by simp, ?_⟩
      intro listenerName hmem
      have hname : listenerName = selected.listenerName := by simpa using hmem
      exact ⟨selected, bestMatch_of_select hselected, hname.symm⟩
    · simp

end

/-! ## The better hostname -/

/-- **The better hostname decides, unless a passthrough listener with a route is up against a better
terminate listener with a route**: then the connection is passed through all the same. -/
theorem tlsSurface_iff (env : ConnectionEnv) (bind : PlannedSharedTlsBind)
    (serverName : Option String) (st : SelectionState) :
    ((∀ t, BestTerminate env bind serverName t → t.hasRoute = true →
        (∀ p, BestPassthrough env bind serverName p → p.score < t.score) →
        Terminates env bind serverName (handleConnection env bind st (.ok serverName)) ∧
          ¬ PassesThrough env bind serverName (handleConnection env bind st (.ok serverName))) ∧
      ∀ p, BestPassthrough env bind serverName p →
        (∀ t, BestTerminate env bind serverName t → t.score < p.score) →
        PassesThrough env bind serverName (handleConnection env bind st (.ok serverName)) ∧
          ¬ Terminates env bind serverName (handleConnection env bind st (.ok serverName))) ↔
    ¬ ∃ p t, BestPassthrough env bind serverName p ∧ BestTerminate env bind serverName t ∧
      t.hasRoute = true ∧ p.score < t.score ∧ p.hasRoute = true := by
  constructor
  · rintro ⟨hterminates, -⟩ ⟨p, t, hp, ht, hroute, hlt, hpassing⟩
    refine (hterminates t ht hroute fun p' hp' => ?_).2 (handleConnection_passes hp (.inl hpassing))
    rwa [hp'.score_eq hp]
  · intro hclash
    refine ⟨fun t ht hroute hlt => ?_, fun p hp hlt => ?_⟩
    · have hout := @handleConnection_terminates env bind serverName st t ht hroute fun p hp =>
        ⟨Bool.eq_false_iff.mpr fun hpassing => hclash ⟨p, t, hp, ht, hroute, hlt p hp, hpassing⟩,
          (hlt p hp).le⟩
      exact ⟨hout, fun hpasses => hpasses.not_terminates hout⟩
    · have hout := @handleConnection_passes env bind serverName st p hp
        (.inr fun t ht _ => hlt t ht)
      exact ⟨hout, hout.not_terminates⟩

def sharedAddress : Snapshot where
  listeners :=
    [{ name := "gw/pass", protocol := "TLS", port := 443, hostnames := ["*.example.org"],
       attachedRoutes := ["gw/tunnel"] },
     { name := "gw/web", protocol := "HTTPS", port := 443, hostnames := ["a.example.org"],
       attachedRoutes := ["gw/site"] }]
  streamRoutes := [{ name := "tunnel", «namespace» := "gw", kind := "TLSRoute", rules := [{}] }]
  httpRoutes := [{ name := "site", «namespace» := "gw" }]

def sharedBind : PlannedSharedTlsBind where
  bind := "0.0.0.0:443"
  terminate := some { listenerNames := ["gw/web"] }
  passthrough := some ⟨["gw/pass"]⟩

def plainEnv (snapshot : Snapshot) : ConnectionEnv where
  selection := snapshot
  routing := snapshot
  dispatch := snapshot
  now := 0
  terminateTls _ := .ok ()
  connect _ := .ok ()
  processAcceptedStream := .ok ()

/-- For the exact name of the terminate listener, which has a route, the connection is passed
through: the wildcard has a route too. -/
theorem tlsSurface_passes_worse :
    selectSharedTlsListeners sharedAddress (some "a.example.org") ["gw/pass"] ["gw/web"]
      = (some ⟨"gw/pass", ⟨1, 11⟩, true⟩, some ⟨"gw/web", ⟨2, 13⟩, true⟩) ∧
    (⟨1, 11⟩ : TlsListenerScore) < ⟨2, 13⟩ ∧
    (handleConnection (plainEnv sharedAddress) sharedBind {} (.ok (some "a.example.org"))).calls
      = [.proxyPassthrough "gw/pass"] := by
  refine ⟨by decide +kernel, by decide, by decide +kernel⟩

end NantianGateway.SharedTls
