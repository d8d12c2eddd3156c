import NantianGateway.Observability.RateLimit
import NantianGateway.Stream.Pool

/-!
# The relay of a TCP session

`proxy_stream_connection`: what one side sends is written to the other; the end of one side's
stream shuts down the write half of the other side; a reset, a timeout and the maximal age end the
session.  Whether a write succeeds is part of the event.
-/

namespace NantianGateway.Stream

/-! ## Events -/

/-- The outcome of `write_all`; a failed write has got some of its bytes out. -/
inductive WriteResult where
  | ok
  | failed (kind : IoErrorKind) (sent : ℕ)
  deriving DecidableEq

/-- What the loop waits for, with the outcome of the write that follows a read. -/
inductive ProxyEvent where
  | downstreamRead (bytes : List UInt8) (write : WriteResult)
  | upstreamRead (bytes : List UInt8) (write : WriteResult)
  | downstreamClosed
  | upstreamClosed
  | downstreamReset
  | upstreamReset
  | idleTimeout
  | maxConnectionAgeReached
  | readFailed (kind : IoErrorKind)
  deriving DecidableEq

structure TcpProxyOutcome where
  bytesReceived : ℕ := 0
  bytesSent : ℕ := 0
  responseFlags : String := ""
  deriving DecidableEq

/-- The variables of the loop, with the two connections. -/
structure ProxyState where
  downstreamOpen : Bool := true
  upstreamOpen : Bool := true
  outcome : TcpProxyOutcome := {}
  proxyError : Option IoErrorKind := none
  upstream : Upstream := {}
  /-- What has been written to the client, and whether that half has been shut down. -/
  downstreamWritten : List UInt8 := []
  downstreamWriteShut : Bool := false
  deriving DecidableEq

structure SessionLimits where
  idleTimeout : Option Duration := none
  maxConnectionAge : Option Duration := none

/-- Can the event occur?  Closed sides are not read from. -/
def ProxyEvent.enabled (limits : SessionLimits) (st : ProxyState) : ProxyEvent → Bool
  | .downstreamRead _ _ | .downstreamClosed | .downstreamReset => st.downstreamOpen
  | .upstreamRead _ _ | .upstreamClosed | .upstreamReset => st.upstreamOpen
  | .idleTimeout => limits.idleTimeout.isSome
  | .maxConnectionAgeReached => limits.maxConnectionAge.isSome
  | .readFailed kind => (st.downstreamOpen || st.upstreamOpen) && !isTcpConnectionClosed kind

/-! ## The loop -/

def Upstream.write (upstream : Upstream) (bytes : List UInt8) : WriteResult → Upstream
  | .ok => { upstream with written := upstream.written ++ bytes }
  | .failed kind sent =>
    { upstream with
      written := upstream.written ++ bytes.take sent
      peerClosed := upstream.peerClosed || isTcpConnectionClosed kind }

def Upstream.shutdown (upstream : Upstream) : Upstream := { upstream with writeShut := true }

namespace ProxyState

variable (st : ProxyState)

def shutDownstream : ProxyState := { st with downstreamWriteShut := true }

def shutUpstream : ProxyState := { st with upstream := st.upstream.shutdown }

variable (responseFlags : String)

def flag : ProxyState :=
  { st with outcome := { st.outcome with responseFlags := responseFlags } }

def fail (kind : IoErrorKind) : ProxyState :=
  { st.flag responseFlags with proxyError := some kind }

end ProxyState

variable (st : ProxyState) (bytes : List UInt8) (write : WriteResult)

def onDownstreamRead : ProxyState × Bool :=
  let written :=
    { st with
      upstream := st.upstream.write bytes write
      outcome :=
        { st.outcome with
          bytesReceived := Observability.saturatingAdd st.outcome.bytesReceived bytes.length } }
  match write with
  | .ok => (written, false)
  | .failed kind _ =>
    if isTcpConnectionClosed kind then ((written.flag "UC").shutDownstream, true)
    else (written.fail "UE" kind, true)

def onUpstreamRead : ProxyState × Bool :=
  let sent :=
    { st with
      downstreamWritten := st.downstreamWritten ++
        match write with
        | .ok => bytes
        | .failed _ sent => bytes.take sent
      outcome :=
        { st.outcome with
          bytesSent := Observability.saturatingAdd st.outcome.bytesSent bytes.length } }
  match write with
  | .ok => (sent, false)
  | .failed kind _ =>
    if isTcpConnectionClosed kind then ((sent.flag "DC").shutUpstream, true)
    else (sent.fail "DE" kind, true)

/-- One turn of the loop; the Boolean says that it is the last one. -/
def proxyStep : ProxyEvent → ProxyState × Bool
  | .readFailed kind => (st.fail "NE" kind, true)
  | .downstreamRead bytes write => onDownstreamRead st bytes write
  | .upstreamRead bytes write => onUpstreamRead st bytes write
  | .downstreamClosed => ({ st.shutUpstream with downstreamOpen := false }, false)
  | .upstreamClosed =>
    ({ st.shutDownstream with
        upstreamOpen := false
        upstream := { st.upstream with peerClosed := true } }, false)
  | .downstreamReset => ((st.flag "DC").shutUpstream, true)
  | .upstreamReset =>
    ({ (st.flag "UC").shutDownstream with
        upstream := { st.upstream with peerClosed := true } }, true)
  | .idleTimeout => ((st.flag "IT").shutDownstream.shutUpstream, true)
  | .maxConnectionAgeReached => ((st.flag "MC").shutDownstream.shutUpstream, true)

/-- The loop over the events of a session: the state in which it ends, if it ends. -/
def proxyLoop (limits : SessionLimits) : ProxyState → List ProxyEvent → Option ProxyState
  | st, [] => if st.downstreamOpen || st.upstreamOpen then none else some st
  | st, event :: events =>
    if st.downstreamOpen || st.upstreamOpen then
      if event.enabled limits st then
        match proxyStep st event with
        | (next, true) => some next
        | (next, false) => proxyLoop limits next events
      else none
    else some st

/-! ## What the loop leaves behind -/

/-- A side that is closed has left its mark on the upstream connection. -/
structure Inv (st : ProxyState) : Prop where
  shut_of_closed : st.downstreamOpen = false → st.upstream.writeShut = true
  no_error : st.proxyError = none

/-- **One turn**: it goes on and keeps the invariant, or it is the last one, and then it has failed
or has closed a direction of the upstream connection. -/
theorem proxyStep_spec {st : ProxyState} (h : Inv st) (event : ProxyEvent) :
    ((proxyStep st event).2 = false ∧ Inv (proxyStep st event).1) ∨ ((proxyStep st event).2 = true ∧
        ((proxyStep st event).1.proxyError = none → ¬ (proxyStep st event).1.upstream.Clean)) := by
  have hshut : ∀ {upstream : Upstream}, upstream.writeShut = true → ¬ upstream.Clean :=
    fun hshut hclean => Bool.false_ne_true (hclean.1.symm.trans hshut)
  have hclosed : ∀ {upstream : Upstream}, upstream.peerClosed = true → ¬ upstream.Clean :=
    fun hclosed hclean => Bool.false_ne_true (hclean.2.1.symm.trans hclosed)
  cases event with
  | readFailed kind => exact .inr ⟨rfl, fun hnone => by cases hnone⟩
  | downstreamRead bytes write =>
    cases write with
    | ok => exact .inl ⟨rfl, h.shut_of_closed, h.no_error⟩
    | failed kind sent =>
      right
      rw [proxyStep, onDownstreamRead]
      simp only
      by_cases hkind : isTcpConnectionClosed kind = true
      · rw [if_pos hkind]
        exact ⟨rfl, fun _ => hclosed (by simp [Upstream.write, ProxyState.flag,
          ProxyState.shutDownstream, hkind])⟩
      · rw [if_neg hkind]
        exact ⟨rfl, fun hnone => by cases hnone⟩
  | upstreamRead bytes write =>
    cases write with
    | ok => exact .inl ⟨rfl, h.shut_of_closed, h.no_error⟩
    | failed kind sent =>
      right
      rw [proxyStep, onUpstreamRead]
      simp only
      by_cases hkind : isTcpConnectionClosed kind = true
      · rw [if_pos hkind]
        exact ⟨rfl, fun _ => hshut rfl⟩
      · rw [if_neg hkind]
        exact ⟨rfl, fun hnone => by cases hnone⟩
  | downstreamClosed => exact .inl ⟨rfl, fun _ => rfl, h.no_error⟩
  | upstreamClosed => exact .inl ⟨rfl, h.shut_of_closed, h.no_error⟩
  | upstreamReset => exact .inr ⟨rfl, fun _ => hclosed rfl⟩
  | downstreamReset | idleTimeout | maxConnectionAgeReached =>
    exact .inr ⟨rfl, fun _ => hshut rfl⟩

/-- **The run**: a session that ends without an error has closed a direction of its upstream
connection, or has found one closed. -/
theorem not_clean_of_ended {limits : SessionLimits} {st out : ProxyState} (h : Inv st)
    (events : List ProxyEvent) (hout : proxyLoop limits st events = some out)
    (hok : out.proxyError = none) : ¬ out.upstream.Clean := by
  have hboth : ∀ {st : ProxyState}, Inv st → ¬ (st.downstreamOpen || st.upstreamOpen) = true →
      ¬ st.upstream.Clean := by
    intro st h hopen hclean
    rw [Bool.or_eq_true, not_or, Bool.not_eq_true, Bool.not_eq_true] at hopen
    exact Bool.false_ne_true (hclean.1.symm.trans (h.shut_of_closed hopen.1))
  induction events generalizing st with
  | nil =>
    rw [proxyLoop] at hout
    split at hout
    · cases hout
    · next hopen =>
      obtain rfl := Option.some.inj hout
      exact hboth h hopen
  | cons event events ih =>
    rw [proxyLoop] at hout
    split at hout
    · split at hout
      · rcases proxyStep_spec h event with ⟨hgoes, hnext⟩ | ⟨hlast, hends⟩
        · split at hout
          · next hstep =>
            rw [hstep] at hgoes
            cases hgoes
          · next next hstep =>
            rw [hstep] at hnext
            exact ih hnext hout
        · split at hout
          · next next hstep =>
            obtain rfl := Option.some.inj hout
            rw [hstep] at hends
            exact hends hok
          · next hstep =>
            rw [hstep] at hlast
            cases hlast
      · cases hout
    · next hopen =>
      obtain rfl := Option.some.inj hout
      exact hboth h hopen

/-! ## Sessions that end without an error -/

/-- Does the event end the session, and if so without an error? -/
def ProxyEvent.last : ProxyEvent → Option Bool
  | .readFailed _ => some false
  | .downstreamRead _ (.failed kind _) | .upstreamRead _ (.failed kind _) =>
    some (isTcpConnectionClosed kind)
  | .downstreamRead _ .ok | .upstreamRead _ .ok | .downstreamClosed | .upstreamClosed => none
  | .downstreamReset | .upstreamReset | .idleTimeout | .maxConnectionAgeReached => some true

/-- The events end a session whose sides are open or not, and end it without an error: both sides
are closed, or there is an event that ends it so. -/
def EndsWell (limits : SessionLimits) : Bool → Bool → List ProxyEvent → Prop
  | downstreamOpen, upstreamOpen, [] => (downstreamOpen || upstreamOpen) = false
  | downstreamOpen, upstreamOpen, event :: events =>
    (downstreamOpen || upstreamOpen) = false ∨
      event.enabled limits { downstreamOpen, upstreamOpen } = true ∧
        match event.last with
        | some well => well = true
        | none => EndsWell limits (downstreamOpen && event ≠ .downstreamClosed)
            (upstreamOpen && event ≠ .upstreamClosed) events

theorem proxyStep_of_last {st : ProxyState} {event : ProxyEvent} {well : Bool}
    (h : event.last = some well) (hnone : st.proxyError = none) :
    (proxyStep st event).2 = true ∧ ((proxyStep st event).1.proxyError = none ↔ well = true) := by
  cases event with
  | downstreamRead bytes write =>
    cases write with
    | ok => cases h
    | failed kind sent =>
      obtain rfl := Option.some.inj h
      rw [proxyStep, onDownstreamRead]
      dsimp only
      split
      · next hclosed => exact ⟨rfl, iff_of_true hnone hclosed⟩
      · next hopen => exact ⟨rfl, iff_of_false nofun hopen⟩
  | upstreamRead bytes write =>
    cases write with
    | ok => cases h
    | failed kind sent =>
      obtain rfl := Option.some.inj h
      rw [proxyStep, onUpstreamRead]
      dsimp only
      split
      · next hclosed => exact ⟨rfl, iff_of_true hnone hclosed⟩
      · next hopen => exact ⟨rfl, iff_of_false nofun hopen⟩
  | readFailed kind =>
    obtain rfl := Option.some.inj h
    exact ⟨rfl, iff_of_false nofun nofun⟩
  | downstreamClosed => cases h
  | upstreamClosed => cases h
  | downstreamReset | upstreamReset | idleTimeout | maxConnectionAgeReached =>
    obtain rfl := Option.some.inj h
    exact ⟨rfl, iff_of_true hnone rfl⟩

theorem proxyStep_of_not_last {st : ProxyState} {event : ProxyEvent} (h : event.last = none) :
    (proxyStep st event).2 = false ∧
      (proxyStep st event).1.proxyError = st.proxyError ∧
      (proxyStep st event).1.downstreamOpen
        = (st.downstreamOpen && decide (event ≠ .downstreamClosed)) ∧
      (proxyStep st event).1.upstreamOpen
        = (st.upstreamOpen && decide (event ≠ .upstreamClosed)) := by
  cases event with
  | downstreamRead bytes write =>
    cases write with
    | ok => simp [proxyStep, onDownstreamRead]
    | failed kind sent => cases h
  | upstreamRead bytes write =>
    cases write with
    | ok => simp [proxyStep, onUpstreamRead]
    | failed kind sent => cases h
  | downstreamClosed => simp [proxyStep, ProxyState.shutUpstream]
  | upstreamClosed => simp [proxyStep, ProxyState.shutDownstream]
  | _ => cases h

/-- **A session ends without an error exactly if its events end it so.** -/
theorem proxyLoop_endsWell {limits : SessionLimits} {st : ProxyState} (h : st.proxyError = none)
    (events : List ProxyEvent) :
    (∃ out, proxyLoop limits st events = some out ∧ out.proxyError = none) ↔
      EndsWell limits st.downstreamOpen st.upstreamOpen events := by
  induction events generalizing st with
  | nil =>
    rw [proxyLoop, EndsWell]
    split
    · next hopen => simp [hopen]
    · next hopen => exact iff_of_true ⟨st, rfl, h⟩ (Bool.eq_false_iff.mpr hopen)
  | cons event events ih =>
    rw [proxyLoop, EndsWell]
    split
    · next hopen =>
      rw [or_iff_right (by simp [hopen])]
      have henabled : event.enabled limits st
          = event.enabled limits
            { downstreamOpen := st.downstreamOpen, upstreamOpen := st.upstreamOpen } := by
        cases event <;> rfl
      rw [← henabled]
      split
      · next hcan =>
        rw [and_iff_right hcan]
        cases hlast : event.last with
        | some well =>
          obtain ⟨hstop, hwell⟩ := proxyStep_of_last hlast h
          refine Iff.trans ?_ hwell
          rw [show proxyStep st event = ((proxyStep st event).1, true) from Prod.ext rfl hstop]
          simp
        | none =>
          obtain ⟨hgoes, herror, hdown, hup⟩ := @proxyStep_of_not_last st event hlast
          rw [show proxyStep st event = ((proxyStep st event).1, false) from Prod.ext rfl hgoes]
          dsimp only
          rw [ih (herror.trans h), hdown, hup]
      · next hcannot => simp [hcannot]
    · next hopen => exact iff_of_true ⟨st, rfl, h⟩ (.inl (Bool.eq_false_iff.mpr hopen))

end NantianGateway.Stream
