import NantianGateway.Ir.Types

/-!
# The pool of upstream connections

`TcpConnectionPool`: idle connections, a stack for each address.  A session takes the one on top if
it is young enough and a non-blocking read of one byte finds nothing, and puts it back unless the
stack is full.  A connection whose write half is shut down answers the probe as a fresh one does.
-/

namespace NantianGateway.Stream

/-! ## Connections -/

inductive IoErrorKind where
  | brokenPipe
  | connectionAborted
  | connectionReset
  | notConnected
  | unexpectedEof
  | wouldBlock
  | other
  deriving DecidableEq

def isTcpConnectionClosed (kind : IoErrorKind) : Bool :=
  match kind with
  | .brokenPipe | .connectionAborted | .connectionReset | .notConnected | .unexpectedEof => true
  | .wouldBlock | .other => false

structure Upstream where
  written : List UInt8 := []
  writeShut : Bool := false
  /-- A read has met the end of the stream, or a read or write has met a closed connection. -/
  peerClosed : Bool := false
  deriving DecidableEq

/-- **A clean connection**: both directions are open, and nothing has been asked on it that could
still be answered. -/
def Upstream.Clean (upstream : Upstream) : Prop :=
  upstream.writeShut = false ∧ upstream.peerClosed = false ∧ upstream.written = []

instance (upstream : Upstream) : Decidable upstream.Clean := inferInstanceAs (Decidable (_ ∧ _))

/-- What a non-blocking read of one byte answers. -/
inductive ProbeResult where
  | read (count : ℕ)
  | failed (kind : IoErrorKind)
  deriving DecidableEq

def ProbeResult.isAlive (probe : ProbeResult) : Bool :=
  match probe with
  | .read _ => false
  | .failed kind => kind == .wouldBlock

/-! ## The pool -/

def maxConnectionCount : ℕ := 32768

abbrev PoolKey := String × UInt16

structure IdleConnection where
  stream : Upstream
  since : Instant
  deriving DecidableEq

structure TcpConnectionPool where
  /-- The idle connections of each backend, the one that was put back last on top. -/
  idle : Table PoolKey (List IdleConnection) := .empty
  maxIdlePerBackend : ℕ
  idleTimeout : Duration
  activeConnections : UInt64 := 0
  idleConnections : UInt64 := 0
  connectionHits : UInt64 := 0
  connectionMisses : UInt64 := 0
  peakActiveConnections : UInt64 := 0

structure StreamPoolCounters where
  hits : ℕ := 0
  misses : ℕ := 0
  deriving DecidableEq

namespace TcpConnectionPool

variable (maxIdlePerBackend : ℕ)

def new (idleTimeout : Duration) : TcpConnectionPool where
  maxIdlePerBackend := min maxIdlePerBackend maxConnectionCount
  idleTimeout := idleTimeout

variable (pool : TcpConnectionPool) (key : PoolKey)

def isEnabled : Bool := decide (0 < pool.maxIdlePerBackend)

def setMaxIdlePerBackend (size : ℕ) : TcpConnectionPool :=
  { pool with maxIdlePerBackend := min size maxConnectionCount }

def idleAt : List IdleConnection := (pool.idle key).getD []

/-- Pop until a connection is young enough and alive; the third component counts the pops. -/
def popLive (idleTimeout : Duration) (now : Instant) (probe : Upstream → ProbeResult) :
    List IdleConnection → Option Upstream × List IdleConnection × ℕ
  | [] => (none, [], 0)
  | idle :: rest =>
    if idleTimeout ≤ now - idle.since ∨ (probe idle.stream).isAlive = false then
      let (found, left, pops) := popLive idleTimeout now probe rest
      (found, left, pops + 1)
    else (some idle.stream, rest, 1)

def getConnection (now : Instant) (probe : Upstream → ProbeResult)
    (connect : Except IoErrorKind Unit) :
    Except IoErrorKind Upstream × StreamPoolCounters × TcpConnectionPool :=
  if pool.isEnabled = false then (connect.map fun _ => {}, {}, pool)
  else
    let (found, left, pops) := popLive pool.idleTimeout now probe (pool.idleAt key)
    let popped :=
      { pool with
        idle := pool.idle.insert key left
        idleConnections := pool.idleConnections - UInt64.ofNat pops }
    match found with
    | some stream =>
      (.ok stream, { hits := 1 }, { popped with
          connectionHits := pool.connectionHits + 1
          activeConnections := pool.activeConnections + 1 })
    | none =>
      let missed := { popped with connectionMisses := pool.connectionMisses + 1 }
      match connect with
      | .error kind => (.error kind, { misses := 1 }, missed)
      | .ok () =>
        (.ok {}, { misses := 1 }, { missed with
            activeConnections := pool.activeConnections + 1
            peakActiveConnections :=
              max pool.peakActiveConnections (pool.activeConnections + 1) })

def returnConnection (now : Instant) (stream : Upstream) : TcpConnectionPool :=
  let released := { pool with activeConnections := pool.activeConnections - 1 }
  if pool.isEnabled = false then released
  else if pool.maxIdlePerBackend ≤ (pool.idleAt key).length then released
  else
    { released with
      idle := pool.idle.insert key (⟨stream, now⟩ :: pool.idleAt key)
      idleConnections := pool.idleConnections + 1 }

def prewarm (count : ℕ) (connects : List (Except IoErrorKind Instant)) : TcpConnectionPool :=
  if pool.isEnabled = false then pool
  else
    let available := pool.maxIdlePerBackend - (pool.idleAt key).length
    let warmed := (connects.take (min count available)).filterMap fun connect =>
      connect.toOption.map fun now => (⟨{}, now⟩ : IdleConnection)
    { pool with
      idle := pool.idle.insert key (warmed.reverse ++ pool.idleAt key)
      idleConnections := pool.idleConnections + UInt64.ofNat warmed.length }

def drain : TcpConnectionPool := { pool with idle := .empty, idleConnections := 0 }

/-! ## What is in the pool -/

def Holds (P : Upstream → Prop) : Prop := ∀ key, ∀ idle ∈ pool.idleAt key, P idle.stream

variable {pool key} {P : Upstream → Prop} {idleTimeout : Duration} {now : Instant}
  {probe : Upstream → ProbeResult} {connect : Except IoErrorKind Unit}

theorem holds_new : (new maxIdlePerBackend idleTimeout).Holds P := by
  intro key idle hidle
  cases hidle

theorem Holds.insert (h : pool.Holds P) {left : List IdleConnection}
    (hleft : ∀ idle ∈ left, P idle.stream) {pool' : TcpConnectionPool}
    (hpool' : pool'.idle = pool.idle.insert key left) : pool'.Holds P := by
  intro other idle hidle
  rw [idleAt, hpool', Table.insert] at hidle
  split at hidle
  · exact hleft idle hidle
  · exact h other idle hidle

theorem popLive_mem (stack : List IdleConnection) :
    (∀ stream, (popLive idleTimeout now probe stack).1 = some stream →
      ∃ idle ∈ stack, idle.stream = stream) ∧
    ∀ idle ∈ (popLive idleTimeout now probe stack).2.1, idle ∈ stack := by
  induction stack with
  | nil => exact ⟨fun _ h => (Option.some_ne_none _ h.symm).elim, fun _ h => h⟩
  | cons top rest ih =>
    rw [popLive]
    split
    · refine ⟨fun stream hstream => ?_, fun idle hidle => ?_⟩
      · obtain ⟨idle, hidle, rfl⟩ := ih.1 stream hstream
        exact ⟨idle, List.mem_cons_of_mem _ hidle, rfl⟩
      · exact List.mem_cons_of_mem _ (ih.2 idle hidle)
    · refine ⟨fun stream hstream => ⟨top, List.mem_cons_self, Option.some.inj hstream⟩, ?_⟩
      exact fun idle hidle => List.mem_cons_of_mem _ hidle

theorem Holds.getConnection (h : pool.Holds P) :
    (pool.getConnection key now probe connect).2.2.Holds P := by
  have hleft : ∀ idle ∈ (popLive pool.idleTimeout now probe (pool.idleAt key)).2.1,
      P idle.stream := fun idle hidle => h key idle ((popLive_mem _).2 idle hidle)
  rw [TcpConnectionPool.getConnection]
  split
  · exact h
  · cases hfound : (popLive pool.idleTimeout now probe (pool.idleAt key)).1 with
    | some stream =>
      simp only [hfound]
      exact h.insert hleft rfl
    | none =>
      simp only [hfound]
      cases connect with
      | error kind | ok u => exact h.insert hleft rfl

theorem Holds.of_ok (h : pool.Holds P) (hnew : P {}) {stream : Upstream}
    (hresult : (pool.getConnection key now probe connect).1 = .ok stream) : P stream := by
  rw [TcpConnectionPool.getConnection] at hresult
  split at hresult
  · cases connect with
    | error kind => cases hresult
    | ok u => exact Except.ok.inj hresult ▸ hnew
  · cases hfound : (popLive pool.idleTimeout now probe (pool.idleAt key)).1 with
    | some found =>
      simp only [hfound, Except.ok.injEq] at hresult
      obtain ⟨idle, hidle, rfl⟩ := (popLive_mem _).1 found hfound
      exact hresult ▸ h key idle hidle
    | none =>
      simp only [hfound] at hresult
      cases connect with
      | error kind => cases hresult
      | ok u => exact Except.ok.inj hresult ▸ hnew

theorem Holds.prewarm (h : pool.Holds P) (hnew : P {}) (count : ℕ)
    (connects : List (Except IoErrorKind Instant)) : (pool.prewarm key count connects).Holds P := by
  rw [TcpConnectionPool.prewarm]
  split
  · exact h
  · refine h.insert (fun idle hidle => ?_) rfl
    rcases List.mem_append.mp hidle with hidle | hidle
    · obtain ⟨connect, -, hconnect⟩ := List.mem_filterMap.mp (List.mem_reverse.mp hidle)
      obtain ⟨now, -, rfl⟩ := Option.map_eq_some_iff.mp hconnect
      exact hnew
    · exact h key idle hidle

theorem holds_drain : pool.drain.Holds P := by
  intro key idle hidle
  cases hidle

end TcpConnectionPool

end NantianGateway.Stream
