import NantianGateway.Stream.TcpProxy

/-!
# Sessions over pooled connections

`handle_connection`, from the moment it asks the pool for a connection.  Sessions meet only in the
pool, so a session is two steps.  A session that succeeds has always closed a direction of its
connection or found one closed, so every connection that is put back must not be used again.
-/

namespace NantianGateway.Stream

open TcpConnectionPool

/-! ## A session -/

/-- What a session meets once it has a connection. -/
structure SessionInput where
  setNodelay : Except IoErrorKind Unit := .ok ()
  /-- The bytes that were read ahead of the relay, and the outcome of writing them. -/
  preface : List UInt8 := []
  prefaceWrite : WriteResult := .ok
  limits : SessionLimits := {}
  events : List ProxyEvent := []
  probe : ProbeResult

/-- The end of a session; `relayed` says that the relay has begun. -/
structure SessionEnd where
  result : Except IoErrorKind Unit
  upstream : Upstream
  relayed : Bool

def runSession (input : SessionInput) (upstream : Upstream) : Option SessionEnd :=
  match input.setNodelay with
  | .error kind => some ⟨.error kind, upstream, false⟩
  | .ok () =>
    let (upstream, prefaceWrite) : Upstream × WriteResult :=
      if input.preface = [] then (upstream, .ok)
      else (upstream.write input.preface input.prefaceWrite, input.prefaceWrite)
    match prefaceWrite with
    | .failed kind _ => some ⟨.error kind, upstream, false⟩
    | .ok =>
      (proxyLoop input.limits { upstream := upstream } input.events).map fun out =>
        ⟨match out.proxyError with
          | some kind => .error kind
          | none => .ok (), out.upstream, true⟩

/-- The session gets as far as the relay, and its events end it without an error. -/
structure SessionInput.EndsWell (input : SessionInput) : Prop where
  nodelay : input.setNodelay = .ok ()
  preface : input.preface = [] ∨ input.prefaceWrite = .ok
  events : Stream.EndsWell input.limits true true input.events

def offers (pool : TcpConnectionPool) (probe : ProbeResult) (ended : SessionEnd) : Bool :=
  ended.relayed && ended.result.isOk && pool.isEnabled && probe.isAlive

/-! ## The gateway -/

structure World where
  pool : TcpConnectionPool
  held : Table ℕ (PoolKey × Upstream) := .empty

inductive PoolAction where
  | connect (session : ℕ) (key : PoolKey) (now : Instant) (probe : Upstream → ProbeResult)
      (connect : Except IoErrorKind Unit)
  | finish (session : ℕ) (now : Instant) (input : SessionInput)
  | prewarm (key : PoolKey) (count : ℕ) (connects : List (Except IoErrorKind Instant))
  | drain
  | setMaxIdlePerBackend (size : ℕ)

inductive PoolNote where
  | handedOut (session : ℕ) (stream : Upstream)
  | returned (session : ℕ) (stream : Upstream)
  deriving DecidableEq

def PoolNote.stream : PoolNote → Upstream
  | .handedOut _ stream => stream
  | .returned _ stream => stream

namespace World

variable (w : World)

def finish (session : ℕ) (now : Instant) (input : SessionInput) (key : PoolKey)
    (ended : SessionEnd) : World × Option PoolNote :=
  let held := Function.update w.held session none
  if offers w.pool input.probe ended then
    (⟨w.pool.returnConnection key now ended.upstream, held⟩,
      if (w.pool.idleAt key).length < w.pool.maxIdlePerBackend then
        some (.returned session ended.upstream)
      else none)
  else (⟨w.pool, held⟩, none)

def step : PoolAction → World × Option PoolNote
  | .connect session key now probe connect =>
    match w.pool.getConnection key now probe connect with
    | (.ok stream, _, pool) =>
      (⟨pool, w.held.insert session (key, stream)⟩, some (.handedOut session stream))
    | (.error _, _, pool) => (⟨pool, w.held⟩, none)
  | .finish session now input =>
    match w.held session with
    | none => (w, none)
    | some (key, upstream) =>
      match runSession input upstream with
      | none => (w, none)
      | some ended => w.finish session now input key ended
  | .prewarm key count connects => ({ w with pool := w.pool.prewarm key count connects }, none)
  | .drain => ({ w with pool := w.pool.drain }, none)
  | .setMaxIdlePerBackend size => ({ w with pool := w.pool.setMaxIdlePerBackend size }, none)

def run : World → List PoolAction → List PoolNote
  | _, [] => []
  | w, action :: actions => (w.step action).2.toList ++ run (w.step action).1 actions

/-- **An action that puts a connection back**: a session ends without an error while the pool is
enabled and has room, and the probe would block. -/
def Returns : PoolAction → Prop
  | .finish session _ input => ∃ key upstream, w.held session = some (key, upstream) ∧
      input.EndsWell ∧ w.pool.isEnabled = true ∧ input.probe.isAlive = true ∧
      (w.pool.idleAt key).length < w.pool.maxIdlePerBackend
  | _ => False

def NeverReturns : World → List PoolAction → Prop
  | _, [] => True
  | w, action :: actions => ¬ w.Returns action ∧ NeverReturns (w.step action).1 actions

end World

/-! ## What is put back -/

theorem not_clean_of_runSession {input : SessionInput} {upstream : Upstream} {ended : SessionEnd}
    (h : runSession input upstream = some ended) (hrel : ended.relayed = true)
    (hok : ended.result.isOk = true) : ¬ ended.upstream.Clean := by
  have hst : ∀ upstream : Upstream, Inv { upstream := upstream } := fun upstream =>
    ⟨fun hclosed => (Bool.false_ne_true hclosed.symm).elim, rfl⟩
  rw [runSession] at h
  split at h
  · obtain rfl := Option.some.inj h
    cases hrel
  · generalize (if input.preface = [] then (upstream, WriteResult.ok)
      else (upstream.write input.preface input.prefaceWrite, input.prefaceWrite)) = written at h
    obtain ⟨upstream', prefaceWrite⟩ := written
    simp only at h
    split at h
    · obtain rfl := Option.some.inj h
      cases hrel
    · obtain ⟨out, hout, rfl⟩ := Option.map_eq_some_iff.mp h
      refine not_clean_of_ended (hst upstream') input.events hout ?_
      cases herror : out.proxyError with
      | none => rfl
      | some kind =>
        simp only [herror] at hok
        cases hok

theorem exists_runSession_iff {input : SessionInput} {upstream : Upstream} :
    (∃ ended, runSession input upstream = some ended ∧ ended.relayed = true ∧
      ended.result.isOk = true) ↔ input.EndsWell := by
  rw [runSession]
  cases hnodelay : input.setNodelay with
  | error kind =>
    refine iff_of_false ?_ fun h => by cases hnodelay.symm.trans h.nodelay
    rintro ⟨ended, hended, hrelayed, -⟩
    obtain rfl := Option.some.inj hended
    cases hrelayed
  | ok =>
    generalize hwritten : (if input.preface = [] then (upstream, WriteResult.ok)
      else (upstream.write input.preface input.prefaceWrite, input.prefaceWrite)) = written
    have hwrite : written.2 = .ok ↔ input.preface = [] ∨ input.prefaceWrite = .ok := by
      rw [← hwritten]
      split
      · next hnone => exact iff_of_true rfl (.inl hnone)
      · next hsome => exact (or_iff_right hsome).symm
    obtain ⟨upstream', write⟩ := written
    cases write with
    | failed kind sent =>
      refine iff_of_false ?_ fun h => by cases hwrite.mpr h.preface
      rintro ⟨ended, hended, hrelayed, -⟩
      obtain rfl := Option.some.inj hended
      cases hrelayed
    | ok =>
      have hloop := @proxyLoop_endsWell input.limits { upstream := upstream' } rfl input.events
      constructor
      · rintro ⟨ended, hended, -, hok⟩
        obtain ⟨out, hout, rfl⟩ := Option.map_eq_some_iff.mp hended
        refine ⟨hnodelay, hwrite.mp rfl, hloop.mp ⟨out, hout, ?_⟩⟩
        cases herror : out.proxyError with
        | none => rfl
        | some kind =>
          simp only [herror] at hok
          cases hok
      · intro h
        obtain ⟨out, hout, hnone⟩ := hloop.mpr h.events
        exact ⟨_, Option.map_eq_some_iff.mpr ⟨out, hout, rfl⟩, rfl, by simp only [hnone]; rfl⟩

section

variable {w : World}

theorem step_note_of_returns {action : PoolAction} (h : w.Returns action) :
    ∃ session stream, (w.step action).2 = some (.returned session stream) ∧ ¬ stream.Clean := by
  cases action with
  | finish session now input =>
    obtain ⟨key, upstream, hheld, hwell, henabled, halive, hroom⟩ := h
    obtain ⟨ended, hended, hrelayed, hok⟩ := (@exists_runSession_iff input upstream).mpr hwell
    have hoff : offers w.pool input.probe ended = true := by
      simp [offers, hrelayed, hok, henabled, halive]
    refine ⟨session, ended.upstream, ?_, not_clean_of_runSession hended hrelayed hok⟩
    simp only [World.step, hheld, hended, World.finish, hoff, if_true, hroom]
  | _ => exact h.elim

theorem holds_step {action : PoolAction} (hclean : w.pool.Holds Upstream.Clean)
    (hquiet : ¬ w.Returns action) :
    (w.step action).1.pool.Holds Upstream.Clean ∧
      ∀ note ∈ (w.step action).2, note.stream.Clean := by
  have hnew : Upstream.Clean {} := ⟨rfl, rfl, rfl⟩
  cases action with
  | connect session key now probe connect =>
    have hpool : (w.pool.getConnection key now probe connect).2.2.Holds Upstream.Clean :=
      hclean.getConnection
    rw [World.step]
    cases hresult : (w.pool.getConnection key now probe connect).1 with
    | error kind =>
      split
      · next heq => simp [heq] at hresult
      · next heq =>
        rw [heq] at hpool
        exact ⟨hpool, by simp⟩
    | ok stream =>
      have hstream : stream.Clean := hclean.of_ok hnew hresult
      split
      · next found counters pool heq =>
        rw [heq] at hpool hresult
        obtain rfl := Except.ok.inj hresult
        refine ⟨hpool, fun note hnote => ?_⟩
        obtain rfl := Option.some.inj hnote
        exact hstream
      · next heq => simp [heq] at hresult
  | finish session now input =>
    rw [World.step]
    split
    · exact ⟨hclean, by simp⟩
    · next key upstream hheld =>
      split
      · exact ⟨hclean, by simp⟩
      · next ended hended =>
        rw [World.finish]
        split
        · next hoff =>
          -- the pool is full, for otherwise the connection would be put back
          have hfull : ¬ (w.pool.idleAt key).length < w.pool.maxIdlePerBackend := by
            simp only [offers, Bool.and_eq_true] at hoff
            obtain ⟨⟨⟨hrelayed, hok⟩, henabled⟩, halive⟩ := hoff
            exact fun hroom => hquiet ⟨key, upstream, hheld,
              exists_runSession_iff.mp ⟨ended, hended, hrelayed, hok⟩, henabled, halive, hroom⟩
          rw [if_neg hfull]
          refine ⟨?_, by simp⟩
          rw [returnConnection]
          split
          · exact hclean
          · rw [if_pos (not_lt.mp hfull)]
            exact hclean
        · exact ⟨hclean, by simp⟩
  | prewarm key count connects => exact ⟨hclean.prewarm hnew count connects, by simp [World.step]⟩
  | drain => exact ⟨holds_drain, by simp [World.step]⟩
  | setMaxIdlePerBackend size => exact ⟨hclean, by simp [World.step]⟩

/-- **Connections are put back and handed out clean exactly as long as none is put back.** -/
theorem pooledConnections_clean_iff (w : World) (actions : List PoolAction)
    (hclean : w.pool.Holds Upstream.Clean) :
    (∀ note ∈ w.run actions, note.stream.Clean) ↔ w.NeverReturns actions := by
  induction actions generalizing w with
  | nil => simp [World.run, World.NeverReturns]
  | cons action actions ih =>
    rw [World.run, World.NeverReturns]
    simp only [List.mem_append, Option.mem_toList, or_imp, forall_and]
    by_cases hreturns : w.Returns action
    · obtain ⟨session, stream, hnote, hdirty⟩ := step_note_of_returns hreturns
      refine iff_of_false (fun h => hdirty (h.1 _ hnote)) fun h => h.1 hreturns
    · obtain ⟨hpool, hnotes⟩ := holds_step hclean hreturns
      rw [ih _ hpool]
      exact ⟨fun h => ⟨hreturns, h.2⟩, fun h => ⟨hnotes, h.2⟩⟩

end

def backendKey : PoolKey := ("10.0.0.1", 5432)

def emptyPool : World := ⟨.new 10 (30 * 10 ^ 9), .empty⟩

def wouldBlock : ProbeResult := .failed .wouldBlock

def closedSession : SessionInput where
  events := [.downstreamRead [1] .ok, .downstreamClosed, .upstreamRead [2] .ok, .upstreamClosed]
  probe := .read 0

def idleSession : SessionInput where
  limits := { idleTimeout := some (60 * 10 ^ 9) }
  events := [.downstreamRead [1] .ok, .idleTimeout]
  probe := wouldBlock

theorem pooledConnections_clean_closed : emptyPool.pool.Holds Upstream.Clean ∧
    ∀ note ∈ emptyPool.run
        [.connect 0 backendKey 0 (fun _ => wouldBlock) (.ok ()), .finish 0 1 closedSession,
          .connect 1 backendKey 2 (fun _ => wouldBlock) (.ok ())], note.stream.Clean := by
  refine ⟨holds_new 10, (pooledConnections_clean_iff emptyPool _
    (holds_new 10)).mpr ⟨fun h => h, ?_, fun h => h, trivial⟩⟩
  rintro ⟨key, upstream, -, -, -, halive, -⟩
  simp [closedSession, ProbeResult.isAlive] at halive

/-- **An idle session puts back a connection whose write half is shut down**, and the next session
gets it: it cannot write, and what it reads is the answer to the request of the first. -/
theorem pooledConnections_dirty_idle : emptyPool.run
        [.connect 0 backendKey 0 (fun _ => wouldBlock) (.ok ()), .finish 0 1 idleSession,
          .connect 1 backendKey 2 (fun _ => wouldBlock) (.ok ())]
      = [.handedOut 0 {}, .returned 0 { written := [1], writeShut := true },
          .handedOut 1 { written := [1], writeShut := true }] ∧
    ¬ Upstream.Clean { written := [1], writeShut := true } := by
  decide +kernel

end NantianGateway.Stream
