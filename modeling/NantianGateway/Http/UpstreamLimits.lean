import NantianGateway.Http.Retry
import NantianGateway.Observability.CircuitBreaker

/-!
# The circuit breaker limits of backends

`do_upstream_peer` looks the cluster of the selected backend up by name and sets the cluster's limit
before it asks for a permit.  But the name of a cluster is `<name>:<port>`, and the name of a
*selected* backend has the namespace before it: the selected cluster is never the one that is
found.
-/

namespace NantianGateway.Http

open Observability Observability.CircuitBreaker

/-! ## Synchronising the limits -/

def syncPerBackendCbLimit (s : Snapshot) (circuitBreaker : HttpCircuitBreakerController)
    (backendName : String) : HttpCircuitBreakerController :=
  match s.backends.find? fun backend => backend.name = backendName with
  | none => circuitBreaker
  | some backend =>
    match backend.circuitBreaker with
    | none => circuitBreaker
    | some config =>
      if 0 < config.maxInflightRequests then
        circuitBreaker.setBackendLimit backendName config.maxInflightRequests.toNat
      else circuitBreaker

structure UpstreamState where
  ctx : RetryContext
  circuitBreakerPermit : Option HttpCircuitBreakerPermit
  circuitBreaker : HttpCircuitBreakerController

inductive UpstreamError where
  /-- No backend was selected, or its configuration is missing. -/
  | selection
  | peer
  | circuitBreakerOpen (context : String)
deriving DecidableEq

def RetryContext.backendName (ctx : RetryContext) : Option String :=
  (ctx.fastSelectedBackend.map fun selected => selected.backendName).or
    (ctx.selectedBackend.map fun selected => selected.backendName)

section

variable (cr : Crates) (s : Snapshot) (proxy : GatewayProxy) (request : DownstreamRequest)

/-- The permit for a selected backend, unless the request already has one. -/
def takePermit (st : UpstreamState) (backendName : String) :
    Except UpstreamError Unit × UpstreamState :=
  match st.circuitBreakerPermit with
  | some _ => (.ok (), st)
  | none =>
    match (syncPerBackendCbLimit s st.circuitBreaker backendName).tryAcquireBackend
      backendName with
    | (.ok permit, circuitBreaker) => (.ok (), ⟨st.ctx, some permit, circuitBreaker⟩)
    | (.error _, circuitBreaker) =>
      (.error (.circuitBreakerOpen
          ("backend circuit breaker rejected request for " ++ backendName)),
        ⟨st.ctx, none, circuitBreaker⟩)

/-- `do_upstream_peer`: the selection, the peer, whose building may fail, and the permit. -/
def upstreamPeer (attempt : RetryAttempt) (peerFails : Bool) (st : UpstreamState) :
    Except UpstreamError Unit × UpstreamState :=
  match doUpstreamPeer cr s proxy request attempt st.ctx with
  | none => (.error .selection, st)
  | some ctx =>
    if peerFails then (.error .peer, { st with ctx := ctx })
    else
      match ctx.backendName with
      | none => (.error .selection, { st with ctx := ctx })
      | some backendName => takePermit s { st with ctx := ctx } backendName

end

/-! ## What the limit is afterwards -/

def foundLimit (s : Snapshot) (backendName : String) : Option UInt32 :=
  ((s.backends.find? fun backend => backend.name = backendName).bind fun backend =>
    backend.circuitBreaker).bind fun config =>
      if 0 < config.maxInflightRequests then some config.maxInflightRequests else none

theorem backendLimitFor_syncPerBackendCbLimit (s : Snapshot)
    (circuitBreaker : HttpCircuitBreakerController) (backendName : String) :
    (syncPerBackendCbLimit s circuitBreaker backendName).backendLimitFor backendName
      = ((foundLimit s backendName).map UInt32.toNat).getD
          (circuitBreaker.backendLimitFor backendName) := by
  rw [syncPerBackendCbLimit, foundLimit]
  cases s.backends.find? fun backend => backend.name = backendName with
  | none => rfl
  | some backend =>
    rw [Option.bind_some]
    cases hconfig : backend.circuitBreaker with
    | none =>
      simp only [hconfig]
      rfl
    | some config =>
      simp only [hconfig, Option.bind_some]
      by_cases hpos : 0 < config.maxInflightRequests
      · rw [if_pos hpos, if_pos hpos, backendLimitFor_setBackendLimit]
        rfl
      · rw [if_neg hpos, if_neg hpos]
        rfl

section

variable {cr : Crates} {s : Snapshot} {proxy : GatewayProxy} {request : DownstreamRequest}
  {attempt : RetryAttempt} {st : UpstreamState} {ctx : RetryContext} {backendName : String}

theorem backendLimitFor_takePermit (hpermit : st.circuitBreakerPermit = none) :
    (takePermit s st backendName).2.circuitBreaker.backendLimitFor backendName
      = (syncPerBackendCbLimit s st.circuitBreaker backendName).backendLimitFor backendName := by
  rw [← backendLimitFor_tryAcquireBackend (syncPerBackendCbLimit s st.circuitBreaker backendName)
    backendName backendName, takePermit, hpermit]
  rcases (syncPerBackendCbLimit s st.circuitBreaker backendName).tryAcquireBackend backendName
    with ⟨_ | permit, circuitBreaker⟩ <;> rfl

theorem backendLimitFor_upstreamPeer
    (hselected : doUpstreamPeer cr s proxy request attempt st.ctx = some ctx)
    (hname : ctx.backendName = some backendName) (hpermit : st.circuitBreakerPermit = none) :
    (upstreamPeer cr s proxy request attempt false st).2.circuitBreaker.backendLimitFor backendName
      = ((foundLimit s backendName).map UInt32.toNat).getD
          (st.circuitBreaker.backendLimitFor backendName) := by
  have htake : upstreamPeer cr s proxy request attempt false st
      = takePermit s { st with ctx := ctx } backendName := by
    rw [upstreamPeer, hselected]
    simp only [hname, Bool.false_eq_true, if_false]
  rw [htake, ← backendLimitFor_syncPerBackendCbLimit]
  exact @backendLimitFor_takePermit s { st with ctx := ctx } backendName hpermit

end

/-! ## Which cluster is found -/

theorem length_clusterName (cluster : BackendCluster) :
    cluster.name.toList.length < (backendClusterName cluster).toList.length := by
  rw [backendClusterName, String.toList_append, String.toList_append, List.length_append,
    List.length_append]
  have hslash : ("/" : String).toList.length = 1 := rfl
  omega

theorem find_name_ne_self (s : Snapshot) (cluster : BackendCluster) :
    (s.backends.find? fun backend => backend.name = backendClusterName cluster) ≠ some cluster := by
  intro hfound
  have hname : cluster.name = backendClusterName cluster := by simpa using List.find?_some hfound
  have hlt := length_clusterName cluster
  rw [← hname] at hlt
  exact Nat.lt_irrefl _ hlt

theorem find_name_eq_none {s : Snapshot} (h : ∀ backend ∈ s.backends, '/' ∉ backend.name.toList)
    (cluster : BackendCluster) :
    (s.backends.find? fun backend => backend.name = backendClusterName cluster) = none := by
  refine List.find?_eq_none.mpr fun backend hmem hname => h backend hmem ?_
  rw [of_decide_eq_true hname, backendClusterName, String.toList_append, String.toList_append]
  exact List.mem_append_left _ (List.mem_append_right _ (List.mem_singleton_self '/'))

/-! ## When the limit of the selected cluster is applied -/

/-- **When the limit of the selected cluster is the circuit breaker's limit for it.** A positive
limit that is found by the name of the selected backend has to be the same, and otherwise the limit
has to have been the same before. -/
theorem backend_limit_applied_iff (cr : Crates) (s : Snapshot) (proxy : GatewayProxy)
    (request : DownstreamRequest) (attempt : RetryAttempt) (st : UpstreamState)
    (ctx : RetryContext) (cluster : BackendCluster) (limit : UInt32)
    (_hcluster : cluster ∈ s.backends) (_hlimit : cluster.circuitBreaker = some ⟨limit⟩)
    (_hpos : 0 < limit) (hpermit : st.circuitBreakerPermit = none)
    (hselected : doUpstreamPeer cr s proxy request attempt st.ctx = some ctx)
    (hname : ctx.backendName = some (backendClusterName cluster)) :
    ((upstreamPeer cr s proxy request attempt false st).2.circuitBreaker.backendLimitFor
        (backendClusterName cluster) = limit.toNat ↔
      (foundLimit s (backendClusterName cluster) = some limit ∨
        foundLimit s (backendClusterName cluster) = none ∧
          st.circuitBreaker.backendLimitFor (backendClusterName cluster) = limit.toNat)) ∧
    (s.backends.find? fun backend => backend.name = backendClusterName cluster) ≠ some cluster ∧
    ((∀ backend ∈ s.backends, '/' ∉ backend.name.toList) →
      foundLimit s (backendClusterName cluster) = none) := by
  refine ⟨?_, find_name_ne_self s cluster, fun hslash => ?_⟩
  · rw [backendLimitFor_upstreamPeer hselected hname hpermit]
    cases foundLimit s (backendClusterName cluster) with
    | none => simp
    | some found => simp [UInt32.toNat_inj]
  · rw [foundLimit, find_name_eq_none hslash]
    rfl

private def limitedCluster : BackendCluster :=
  { name := "web:8080"
    «namespace» := "default"
    endpoints := [{ address := "10.0.0.1", port := 8080, healthy := true }]
    circuitBreaker := some ⟨5⟩ }

private def limitedSnapshot : Snapshot :=
  ({ listeners :=
        [{ name := "http", port := 80, protocol := "HTTP", attachedRoutes := ["default/web"] }]
     httpRoutes :=
        [{ name := "web"
           «namespace» := "default"
           rules :=
            [{ backendRefs := [{ «namespace» := "default", name := "web", port := 8080 }] }] }]
     backends := [limitedCluster] } : Snapshot).rebuildRuntimeIndexes inertCrates

private def freshUpstream (backendMaxInflightRequests : ℕ) : UpstreamState :=
  ⟨{ method := "GET" }, none, .new backendMaxInflightRequests⟩

private def limitedContext : RetryContext :=
  (doUpstreamPeer inertCrates limitedSnapshot {} { serverPort := 80 } {}
    { method := "GET" }).getD { method := "" }

theorem backend_limit_applied_iff_default :
    (upstreamPeer inertCrates limitedSnapshot {} { serverPort := 80 } {} false
      (freshUpstream 5)).2.circuitBreaker.backendLimitFor (backendClusterName limitedCluster) = 5 :=
  (backend_limit_applied_iff inertCrates limitedSnapshot {} { serverPort := 80 } {}
    (freshUpstream 5)
    limitedContext limitedCluster 5 (by decide +kernel) rfl (by decide) rfl (by decide +kernel)
    (by decide +kernel)).1.mpr (by decide +kernel)

/-- **The limit of the selected cluster is not applied.**  The request selects the cluster, and
the limit of its backend is the default. -/
theorem selected_limit_not_applied :
    (doUpstreamPeer inertCrates limitedSnapshot {} { serverPort := 80 } {}
        (freshUpstream 0).ctx).bind RetryContext.backendName
      = some (backendClusterName limitedCluster) ∧
    limitedCluster ∈ limitedSnapshot.backends ∧ limitedCluster.circuitBreaker = some ⟨5⟩ ∧
    (upstreamPeer inertCrates limitedSnapshot {} { serverPort := 80 } {} false
      (freshUpstream 0)).2.circuitBreaker.backendLimitFor
          (backendClusterName limitedCluster) = 0 := by
  decide +kernel

end NantianGateway.Http
