import NantianGateway.Stream.TcpProxy

/-!
# What a TCP relay has relayed

The state of the relay is a function of the events it has taken.  As long as writes succeed, each
side has been sent what the other side sent.  A reset or a failed read ends the session, but only
shuts down the side that can still be written to, or none.
-/

namespace NantianGateway.Stream

namespace ProxyEvent

@[simp]
def fromDownstream : ProxyEvent → List UInt8
  | .downstreamRead bytes _ => bytes
  | _ => []

@[simp]
def fromUpstream : ProxyEvent → List UInt8
  | .upstreamRead bytes _ => bytes
  | _ => []

def written : ProxyEvent → Bool
  | .downstreamRead _ write | .upstreamRead _ write => write = .ok
  | _ => true

def terminal : ProxyEvent → Bool
  | .downstreamReset | .upstreamReset | .idleTimeout | .maxConnectionAgeReached | .readFailed _ =>
    true
  | _ => false

@[simp]
def shutsUpstream : ProxyEvent → Bool
  | .downstreamClosed | .downstreamReset | .idleTimeout | .maxConnectionAgeReached => true
  | _ => false

@[simp]
def shutsDownstream : ProxyEvent → Bool
  | .upstreamClosed | .upstreamReset | .idleTimeout | .maxConnectionAgeReached => true
  | _ => false

end ProxyEvent

/-- The loop has taken the events and is in the state; the Boolean says that it has been left. -/
inductive Taken (limits : SessionLimits) : List ProxyEvent → ProxyState → Bool → Prop
  | start : Taken limits [] {} false
  | turn {events : List ProxyEvent} {st : ProxyState} (event : ProxyEvent) :
      Taken limits events st false → (st.downstreamOpen || st.upstreamOpen) = true →
      event.enabled limits st = true →
      Taken limits (events ++ [event]) (proxyStep st event).1 (proxyStep st event).2

structure Relayed (events : List ProxyEvent) (st : ProxyState) : Prop where
  upstream_written : st.upstream.written = events.flatMap ProxyEvent.fromDownstream
  downstreamWritten : st.downstreamWritten = events.flatMap ProxyEvent.fromUpstream
  upstream_shut : st.upstream.writeShut = events.any ProxyEvent.shutsUpstream
  downstream_shut : st.downstreamWriteShut = events.any ProxyEvent.shutsDownstream
  downstreamOpen : st.downstreamOpen = !events.contains .downstreamClosed
  upstreamOpen : st.upstreamOpen = !events.contains .upstreamClosed

def relayOver (events : List ProxyEvent) : Bool :=
  events.any ProxyEvent.terminal ||
    events.contains .downstreamClosed && events.contains .upstreamClosed

variable {limits : SessionLimits} {events : List ProxyEvent} {st : ProxyState} {ended : Bool}

theorem proxyStep_ended {event : ProxyEvent} (hok : event.written) :
    (proxyStep st event).2 = event.terminal := by
  cases event with
  | downstreamRead bytes write => obtain rfl := of_decide_eq_true hok; rfl
  | upstreamRead bytes write => obtain rfl := of_decide_eq_true hok; rfl
  | _ => rfl

theorem Relayed.turn (h : Relayed events st) {event : ProxyEvent} (hok : event.written) :
    Relayed (events ++ [event]) (proxyStep st event).1 := by
  obtain ⟨hup, hdown, hupShut, hdownShut, hdownOpen, hupOpen⟩ := h
  cases event with
  | downstreamRead bytes write =>
    obtain rfl := of_decide_eq_true hok
    constructor <;> simp_all [proxyStep, onDownstreamRead, Upstream.write]
  | upstreamRead bytes write =>
    obtain rfl := of_decide_eq_true hok
    constructor <;> simp_all [proxyStep, onUpstreamRead]
  | _ =>
    constructor <;> simp_all [proxyStep, ProxyState.fail, ProxyState.flag,
      ProxyState.shutUpstream, ProxyState.shutDownstream, Upstream.shutdown]

theorem Taken.relayed (h : Taken limits events st ended)
    (hok : ∀ event ∈ events, event.written = true) :
    Relayed events st ∧ ended = events.any ProxyEvent.terminal := by
  induction h with
  | start => exact ⟨⟨rfl, rfl, rfl, rfl, rfl, rfl⟩, rfl⟩
  | turn event _ _ _ ih =>
    rw [List.forall_mem_append, List.forall_mem_singleton] at hok
    obtain ⟨hrel, hended⟩ := ih hok.1
    refine ⟨hrel.turn hok.2, ?_⟩
    rw [proxyStep_ended hok.2, List.any_append, ← hended]
    simp

theorem Taken.proxyLoop_append (h : Taken limits events st ended) (rest : List ProxyEvent) :
    proxyLoop limits {} (events ++ rest) = if ended then some st else proxyLoop limits st rest := by
  induction h generalizing rest with
  | start => rfl
  | turn event _ hopen hon ih =>
    rw [List.append_assoc, ih, if_neg Bool.false_ne_true, List.singleton_append, proxyLoop,
      if_pos hopen, if_pos hon]
    cases hstep : proxyStep _ event with
    | mk next last => cases last <;> rfl

/-- **The relay.** The upstream has been sent the downstream's reads in order, and the client the
upstream's. A write half is shut down exactly if the other side has closed or was reset, or the
session timed out or reached its age. The loop returns exactly if both sides have closed or a
terminal event has occurred. -/
theorem relay_fidelity (h : Taken limits events st ended)
    (hok : ∀ event ∈ events, event.written = true) :
    st.upstream.written = events.flatMap ProxyEvent.fromDownstream ∧
      st.downstreamWritten = events.flatMap ProxyEvent.fromUpstream ∧
      st.upstream.writeShut = events.any ProxyEvent.shutsUpstream ∧
      st.downstreamWriteShut = events.any ProxyEvent.shutsDownstream ∧
      (proxyLoop limits {} events = if relayOver events then some st else none) ∧
      (relayOver events = false →
        ∀ rest, proxyLoop limits {} (events ++ rest) = proxyLoop limits st rest) := by
  obtain ⟨hrel, hended⟩ := h.relayed hok
  have hloop := h.proxyLoop_append
  refine ⟨hrel.upstream_written, hrel.downstreamWritten, hrel.upstream_shut,
    hrel.downstream_shut, ?_, ?_⟩
  · rw [← List.append_nil events, hloop, proxyLoop, hrel.downstreamOpen,
      hrel.upstreamOpen, List.append_nil, relayOver, ← hended]
    cases ended <;> cases events.contains .downstreamClosed <;>
      cases events.contains .upstreamClosed <;> rfl
  · intro hover rest
    rw [relayOver, ← hended, Bool.or_eq_false_iff] at hover
    rw [hloop, hover.1]
    rfl

theorem relay_fidelity_exchange :
    ∃ st, proxyLoop {} {} [.downstreamRead [1, 2] .ok, .downstreamClosed, .upstreamRead [3] .ok,
        .upstreamClosed] = some st ∧ st.upstream.written = [1, 2] := by
  have h := ((((@Taken.start {}).turn (.downstreamRead [1, 2] .ok) rfl rfl).turn
    .downstreamClosed rfl rfl).turn (.upstreamRead [3] .ok) rfl rfl).turn .upstreamClosed rfl rfl
  obtain ⟨hwritten, -, -, -, hloop, -⟩ := relay_fidelity h (by decide)
  exact ⟨_, hloop, hwritten⟩

/-- An upstream that is reset ends the session, and its write half is not shut down. -/
theorem upstream_reset_unshut :
    (proxyLoop {} {} [.upstreamReset]).map (fun st => st.upstream.writeShut) = some false := by
  decide

end NantianGateway.Stream
