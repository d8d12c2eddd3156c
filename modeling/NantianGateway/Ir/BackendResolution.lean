import NantianGateway.Ir.Snapshot
import NantianGateway.Lib.Weighted

/-!
# Resolving backend references

A reference is a candidate when it has weight, is routable, names a cluster and that cluster has an
endpoint to offer.  A session target is tried first, then consistent hashing when all candidates
agree on it; otherwise one ticket picks a candidate by weight and a second one of its endpoints.
-/

namespace NantianGateway

open Text

/-! ## Endpoint availability -/

inductive EndpointAvailability where
  | primary
  | passiveLastResort
  | unavailable
  deriving DecidableEq

structure EndpointSelectionAvailability where
  count : ℕ
  includePassiveEjected : Bool
  deriving DecidableEq

namespace Snapshot

variable (s : Snapshot)

def endpointAvailabilityAt (backendName : String) (endpoint : BackendEndpoint) (now : Instant) :
    EndpointAvailability :=
  if endpoint.healthy = false then .unavailable
  else if s.endpointRuntime.hasTrackedStates = false then .primary
  else
    match s.endpointRuntime.getCloned (.new backendName endpoint) with
    | some state =>
      if state.activeUnhealthy then .unavailable
      else if state.isEjectedAt now then .passiveLastResort
      else .primary
    | none => .primary

/-- The counts of primary endpoints and of all that may serve as a last resort. -/
def countEndpoint (backendName : String) (now : Instant) (counts : ℕ × ℕ)
    (endpoint : BackendEndpoint) : ℕ × ℕ :=
  match s.endpointAvailabilityAt backendName endpoint now with
  | .primary => (counts.1 + 1, counts.2 + 1)
  | .passiveLastResort => (counts.1, counts.2 + 1)
  | .unavailable => counts

def endpointSelectionAvailability (cluster : BackendCluster) (backendName : String)
    (now : Instant) : EndpointSelectionAvailability :=
  let counts := cluster.endpoints.foldl (s.countEndpoint backendName now) (0, 0)
  if 0 < counts.1 then ⟨counts.1, false⟩ else ⟨counts.2, true⟩

def endpointMatchesSelectionAvailability (backendName : String) (endpoint : BackendEndpoint)
    (now : Instant) (availability : EndpointSelectionAvailability) : Bool :=
  match s.endpointAvailabilityAt backendName endpoint now with
  | .primary => true
  | .passiveLastResort => availability.includePassiveEjected
  | .unavailable => false

def eligibleEndpointCount (cluster : BackendCluster) (backendName : String) (now : Instant) : ℕ :=
  (s.endpointSelectionAvailability cluster backendName now).count

def selectClusterEndpoint (cluster : BackendCluster) (backendName : String) (now : Instant)
    (st : SelectionState) : Option BackendEndpoint × SelectionState :=
  let availability := s.endpointSelectionAvailability cluster backendName now
  if availability.count = 0 then (none, st)
  else
    let (ticket, st) := st.nextEndpointTicket
    let index := ticket.toNat % availability.count
    ((cluster.endpoints.filter fun endpoint =>
      s.endpointMatchesSelectionAvailability backendName endpoint now availability)[index]?, st)

end Snapshot

/-! ## Spreading tickets over weights -/

def gcdLoop : ℕ → ℕ → ℕ → ℕ
  | 0, left, _ => left
  | fuel + 1, left, right => if right = 0 then left else gcdLoop fuel right (left % right)

/-- The second argument shrinks in every turn, so it bounds the turns. -/
def gcd (left right : ℕ) : ℕ := gcdLoop (right + 1) left right

/-- The step between the targets of consecutive tickets: the number coprime to the
total weight that lies nearest to the golden section of it. -/
def spreadWeightedStride (totalWeight : ℕ) : ℕ :=
  if totalWeight ≤ 1 then 1
  else
    let ideal := (totalWeight * 618033988749895 + 1000000000000000 / 2) / 1000000000000000
    let ideal := max 1 (min ideal (totalWeight - 1))
    ((List.range totalWeight).findSome? fun delta =>
      if delta < ideal ∧ gcd (ideal - delta) totalWeight = 1 then some (ideal - delta)
      else if ideal + delta < totalWeight ∧ gcd (ideal + delta) totalWeight = 1 then
        some (ideal + delta)
      else none).getD 1

def spreadWeightedTarget (ticket : UInt64) (totalWeight : ℕ) : ℕ :=
  if totalWeight ≤ 1 then 0
  else ticket.toNat * spreadWeightedStride totalWeight % 2 ^ 64 % totalWeight

/-! ## Rendezvous hashing -/

def rendezvousHashOffsetBasis : UInt64 := 0xcbf29ce484222325

def rendezvousHashPrime : UInt64 := 0x100000001b3

def hashRendezvousPart (hash : UInt64) (bytes : List UInt8) : UInt64 :=
  let hash := bytes.foldl (fun hash byte => (hash ^^^ byte.toUInt64) * rendezvousHashPrime) hash
  (hash ^^^ 0) * rendezvousHashPrime

def utf8Bytes (text : String) : List UInt8 := text.toUTF8.toList

def rendezvousHash (parts : List String) : UInt64 :=
  parts.foldl (fun hash part => hashRendezvousPart hash (utf8Bytes part)) rendezvousHashOffsetBasis

/-- The decimal digits of a number, written backwards into a buffer of ten. -/
def u32DigitsLoop : ℕ → ℕ → List UInt8 → List UInt8
  | 0, _, digits => digits
  | cursor + 1, value, digits =>
    let digits := UInt8.ofNat (48 + value % 10) :: digits
    if value / 10 = 0 then digits else u32DigitsLoop cursor (value / 10) digits

def hashRendezvousU32Part (hash : UInt64) (value : UInt32) : UInt64 :=
  hashRendezvousPart hash (u32DigitsLoop 10 value.toNat [])

def rendezvousHashEndpoint (hashKey backendName : String) (endpoint : BackendEndpoint) : UInt64 :=
  let hash := hashRendezvousPart rendezvousHashOffsetBasis (utf8Bytes hashKey)
  let hash := hashRendezvousPart hash (utf8Bytes backendName)
  let hash := hashRendezvousPart hash (utf8Bytes endpoint.address)
  hashRendezvousU32Part hash endpoint.port

def hashUnitInterval (parts : List String) : Float :=
  ((rendezvousHash parts).toFloat + 1.0) / ((0xffffffffffffffff : UInt64).toFloat + 2.0)

def weightedRendezvousScore (hashKey backendName : String) (weight : Float) : Float :=
  weight / (-(hashUnitInterval [hashKey, backendName]).log)

def requestHeaderValue (request : RequestMeta) (headerName : String) : Option String :=
  if headerName = "" then none
  else
    ((request.headers.get headerName).bind List.head?).or
      ((request.headers.entries.find? fun entry => eqIgnoreAsciiCase entry.1 headerName).bind
        fun entry => entry.2.head?)

def consistentHashKey (policy : LoadBalancingPolicy) (request : RequestMeta) : Option String :=
  policy.consistentHash.bind fun hash =>
    match hash.keyType with
    | "SourceIP" => request.sourceIp
    | "Header" => requestHeaderValue request hash.headerName
    | "Hostname" => request.host
    | _ => none

/-! ## Candidates -/

def backendRefIsRoutable (backendRef : BackendTarget) : Bool :=
  if backendRef.metadata.get "nantian.dev/backend-ref-valid" = some "false" then false
  else
    match backendRef.group, backendRef.kind with
    | "", "" => true
    | "", "Service" => true
    | "multicluster.x-k8s.io", "ServiceImport" => true
    | _, _ => false

structure BackendSelectionCandidate where
  cluster : BackendCluster
  backendRef : BackendRef
  backendName : String

def BackendSelectionCandidate.weight (candidate : BackendSelectionCandidate) : ℕ :=
  candidate.backendRef.weight.toNat

inductive BackendRefVisit where
  | skipped
  | invalid
  | unhealthy
  | candidate (candidate : BackendSelectionCandidate)

def BackendRefVisit.toOption : BackendRefVisit → Option BackendSelectionCandidate
  | .candidate item => some item
  | _ => none

structure BackendCandidateVisit where
  candidateCount : ℕ := 0
  totalWeight : ℕ := 0
  sawInvalidRefs : Bool := false
  sawUnhealthyBackend : Bool := false
  effectiveLoadBalancing : Option LoadBalancingPolicy := none
  loadBalancingMismatch : Bool := false

namespace BackendCandidateVisit

/-- Count a candidate, and keep the load-balancing policy while all candidates share it. -/
def observeCandidate (outcome : BackendCandidateVisit) (backendRef : BackendRef)
    (loadBalancing : Option LoadBalancingPolicy) : BackendCandidateVisit :=
  let outcome :=
    { outcome with
      candidateCount := outcome.candidateCount + 1
      totalWeight := outcome.totalWeight + backendRef.weight.toNat }
  if outcome.loadBalancingMismatch then outcome
  else
    match loadBalancing with
    | none => { outcome with effectiveLoadBalancing := none, loadBalancingMismatch := true }
    | some loadBalancing =>
      match outcome.effectiveLoadBalancing with
      | some current =>
        if current ≠ loadBalancing then
          { outcome with effectiveLoadBalancing := none, loadBalancingMismatch := true }
        else outcome
      | none => { outcome with effectiveLoadBalancing := some loadBalancing }

def error (outcome : BackendCandidateVisit) : Option BackendSelectionError :=
  if outcome.sawUnhealthyBackend then some .noHealthyBackends
  else if outcome.sawInvalidRefs then some .invalidBackendRefs
  else none

end BackendCandidateVisit

namespace Snapshot

variable (s : Snapshot)

def findBackendClusterIndex (backendRef : BackendTarget) : Option (ℕ × BackendCluster) :=
  if backendRefIsRoutable backendRef then
    s.backendClusterForServiceIndex backendRef.namespace backendRef.name backendRef.port
  else none

def httpBackendCandidate (now : Instant) (backendRef : BackendRef) : BackendRefVisit :=
  if backendRef.weight = 0 then .skipped
  else if backendRefIsRoutable backendRef.toBackendTarget = false then .invalid
  else
    match s.findBackendClusterIndex backendRef.toBackendTarget with
    | none => .invalid
    | some (backendIndex, cluster) =>
      let backendName := s.backendNameForIndex backendIndex cluster
      if s.eligibleEndpointCount cluster backendName now = 0 then .unhealthy
      else .candidate ⟨cluster, backendRef, backendName⟩

/-- The candidates among the references, in order. -/
def httpBackendCandidates (refs : List BackendRef) (now : Instant) :
    List BackendSelectionCandidate :=
  refs.filterMap fun backendRef => (s.httpBackendCandidate now backendRef).toOption

def visitStep (now : Instant) (outcome : BackendCandidateVisit) (backendRef : BackendRef) :
    BackendCandidateVisit :=
  match s.httpBackendCandidate now backendRef with
  | .skipped => outcome
  | .invalid => { outcome with sawInvalidRefs := true }
  | .unhealthy => { outcome with sawUnhealthyBackend := true }
  | .candidate candidate =>
    outcome.observeCandidate backendRef (s.backendLoadBalancing candidate.backendName)

def visitHttpBackendCandidates (refs : List BackendRef) (now : Instant) : BackendCandidateVisit :=
  refs.foldl (s.visitStep now) {}

/-! ## Session targets -/

def resolvePersistentHttpBackend (now : Instant) (target : PersistentSessionTarget)
    (sessionPersistence : Option SessionPersistence) :
    List BackendRef → Option ResolvedHttpBackend
  | [] => none
  | backendRef :: refs =>
    if backendRef.weight = 0 ∨ backendRefIsRoutable backendRef.toBackendTarget = false then
      resolvePersistentHttpBackend now target sessionPersistence refs
    else
      match s.findBackendClusterIndex backendRef.toBackendTarget with
      | none => resolvePersistentHttpBackend now target sessionPersistence refs
      | some (backendIndex, cluster) =>
        let backendName := s.backendNameForIndex backendIndex cluster
        if backendName ≠ target.backendName then
          resolvePersistentHttpBackend now target sessionPersistence refs
        else
          let availability := s.endpointSelectionAvailability cluster backendName now
          -- the first reference to the target's backend decides, found or not
          (cluster.endpoints.find? fun endpoint =>
            s.endpointMatchesSelectionAvailability backendName endpoint now availability
              && endpoint.address == target.endpoint.address
              && endpoint.port == target.endpoint.port).map fun endpoint =>
            { endpoint := endpoint
              backendName := backendName
              filters := backendRef.filters
              sessionPersistence := sessionPersistence }

/-- The session policies of the references' backends, tried in order. -/
def resolveBackendPolicyPersistentHttpBackend (now : Instant) (refs : List BackendRef)
    (sessionResolver : SessionPersistence → Option PersistentSessionTarget) :
    Option ResolvedHttpBackend :=
  refs.findSome? fun backendRef =>
    if backendRef.weight = 0 ∨ backendRefIsRoutable backendRef.toBackendTarget = false then none
    else
      (s.findBackendClusterIndex backendRef.toBackendTarget).bind fun found =>
        (s.backendSessionPersistence (s.backendNameForIndex found.1 found.2)).bind
          fun sessionPersistence =>
            (sessionResolver sessionPersistence).bind fun target =>
              s.resolvePersistentHttpBackend now target (some sessionPersistence) refs

/-! ## Consistent hashing -/

def selectClusterEndpointByHash (cluster : BackendCluster) (backendName hashKey : String)
    (now : Instant) : Option BackendEndpoint :=
  let availability := s.endpointSelectionAvailability cluster backendName now
  if availability.count = 0 then none
  else
    (cluster.endpoints.foldl (fun (best : Option (UInt64 × BackendEndpoint)) endpoint =>
      if s.endpointMatchesSelectionAvailability backendName endpoint now availability then
        let score := rendezvousHashEndpoint hashKey backendName endpoint
        if best.any (fun current => score ≤ current.1) then best else some (score, endpoint)
      else best) none).map Prod.snd

def resolved (routeSession : Option SessionPersistence) (candidate : BackendSelectionCandidate)
    (endpoint : BackendEndpoint) : ResolvedHttpBackend :=
  { endpoint := endpoint
    backendName := candidate.backendName
    filters := candidate.backendRef.filters
    sessionPersistence :=
      if routeSession.isNone then s.backendSessionPersistence candidate.backendName else none }

variable (refs : List BackendRef)

def resolveConsistentHashHttpBackend (now : Instant)
    (policy : Option LoadBalancingPolicy) (routeSession : Option SessionPersistence)
    (request : RequestMeta) : Option ResolvedHttpBackend :=
  policy.bind fun policy =>
    if policy.policyType ≠ "ConsistentHash" then none
    else
      (consistentHashKey policy request).bind fun hashKey =>
        ((s.httpBackendCandidates refs now).foldl
          (fun (best : Option (Float × ResolvedHttpBackend)) candidate =>
            match s.selectClusterEndpointByHash candidate.cluster candidate.backendName hashKey
              now with
            | none => best
            | some endpoint =>
              let score := weightedRendezvousScore hashKey candidate.backendName
                (max candidate.backendRef.weight 1).toFloat
              if best.any (fun current => score ≤ current.1) then best
              else some (score, s.resolved routeSession candidate endpoint)) none).map Prod.snd

/-! ## The resolution -/

/-- Pick a candidate by a backend ticket and one of its endpoints by an endpoint ticket. -/
def resolveWeighted (routeSession : Option SessionPersistence)
    (now : Instant) (st : SelectionState) : HttpBackendResolution × SelectionState :=
  let (ticket, st) := st.nextBackendTicket
  let target := spreadWeightedTarget ticket (s.visitHttpBackendCandidates refs now).totalWeight
  match Weighted.pickWeighted BackendSelectionCandidate.weight target 0
    (s.httpBackendCandidates refs now) with
  | none => ({}, st)
  | some candidate =>
    let (endpoint, st) := s.selectClusterEndpoint candidate.cluster candidate.backendName now st
    ({ selected := endpoint.map fun endpoint => s.resolved routeSession candidate endpoint }, st)

def resolveHttpBackendRefsWithSession (routeSession : Option SessionPersistence)
    (request : RequestMeta)
    (sessionResolver : SessionPersistence → Option PersistentSessionTarget) (now : Instant)
    (st : SelectionState) : HttpBackendResolution × SelectionState :=
  match (routeSession.bind sessionResolver).bind fun target =>
    s.resolvePersistentHttpBackend now target none refs with
  | some selected => ({ selected := some selected }, st)
  | none =>
    match (if routeSession.isNone then
        s.resolveBackendPolicyPersistentHttpBackend now refs sessionResolver else none) with
    | some selected => ({ selected := some selected }, st)
    | none =>
      let outcome := s.visitHttpBackendCandidates refs now
      if outcome.candidateCount = 0 then ({ error := outcome.error }, st)
      else
        match s.resolveConsistentHashHttpBackend refs now outcome.effectiveLoadBalancing
          routeSession request with
        | some selected => ({ selected := some selected }, st)
        | none => s.resolveWeighted refs routeSession now st

/-- Streams resolve without a session, a request or filters. -/
def resolveBackendRefs (now : Instant) (st : SelectionState) :
    Option (BackendEndpoint × String) × SelectionState :=
  let (resolution, st) := s.resolveHttpBackendRefsWithSession refs none {} (fun _ => none) now st
  (resolution.selected.map fun item => (item.endpoint, item.backendName), st)

def selectBackendRef (backendRef : BackendTarget) (now : Instant) (st : SelectionState) :
    Option (BackendEndpoint × String) × SelectionState :=
  if backendRefIsRoutable backendRef = false then (none, st)
  else
    match s.findBackendClusterIndex backendRef with
    | none => (none, st)
    | some (backendIndex, cluster) =>
      let backendName := s.backendNameForIndex backendIndex cluster
      let (endpoint, st) := s.selectClusterEndpoint cluster backendName now st
      (endpoint.map fun endpoint => (endpoint, backendName), st)

def selectServiceBackend («namespace» name : String) (port : UInt32) (now : Instant)
    (st : SelectionState) : Option (BackendEndpoint × String) × SelectionState :=
  match s.backendClusterForService «namespace» name port with
  | none => (none, st)
  | some cluster =>
    let backendName := backendClusterName cluster
    let (endpoint, st) := s.selectClusterEndpoint cluster backendName now st
    (endpoint.map fun endpoint => (endpoint, backendName), st)

def defaultServiceBackend («namespace» name : String) (port : UInt32) (now : Instant)
    (st : SelectionState) : Option (BackendEndpoint × String) × SelectionState :=
  s.selectServiceBackend «namespace» name port now st

/-! ## Compiled references -/

def requestedBackendName (backendRef : BackendTarget) : String :=
  backendRef.namespace ++ "/" ++ backendRef.name ++ ":" ++ portText backendRef.port

def compileHttpFastBackendRef (backendRef : BackendRef) : Option CompiledHttpFastBackendRef :=
  if backendRef.weight = 0 ∨ backendRefIsRoutable backendRef.toBackendTarget = false then none
  else
    (s.backendIndex (requestedBackendName backendRef.toBackendTarget)).bind fun backendIndex =>
      s.backends[backendIndex]?.map fun cluster =>
        { backendIndex := backendIndex
          backendName := backendClusterName cluster
          weight := backendRef.weight
          endpoints := cluster.endpoints.map fun endpoint => ⟨endpoint⟩ }

end Snapshot

structure CompiledHttpFastBackendSelection where
  endpoint : BackendEndpoint
  backendName : String
  deriving DecidableEq

/-- A compiled reference whose cluster has endpoints to offer. -/
structure CompiledCandidate where
  compiled : CompiledHttpFastBackendRef
  cluster : BackendCluster
  availability : EndpointSelectionAvailability

def CompiledCandidate.weight (candidate : CompiledCandidate) : ℕ := candidate.compiled.weight.toNat

namespace Snapshot

variable (s : Snapshot)

/-- A compiled reference, if it has a cluster with an endpoint to offer. -/
def compiledCandidate (now : Instant) (compiled : CompiledHttpFastBackendRef) :
    Option CompiledCandidate :=
  s.backends[compiled.backendIndex]?.bind fun cluster =>
    let availability := s.endpointSelectionAvailability cluster compiled.backendName now
    if availability.count = 0 then none else some ⟨compiled, cluster, availability⟩

def compiledCandidates (refs : List CompiledHttpFastBackendRef) (now : Instant) :
    List CompiledCandidate :=
  refs.filterMap (s.compiledCandidate now)

def selectCompiledHttpFastEndpoint (candidate : CompiledCandidate) (now : Instant)
    (st : SelectionState) : Option CompiledHttpFastBackendSelection × SelectionState :=
  if candidate.availability.count = 0 then (none, st)
  else
    let (ticket, st) := st.nextEndpointTicket
    let target := ticket.toNat % candidate.availability.count
    let eligible := candidate.cluster.endpoints.zipIdx.filter fun entry =>
      s.endpointMatchesSelectionAvailability candidate.compiled.backendName entry.1 now
        candidate.availability
    (eligible[target]?.bind fun entry =>
      candidate.compiled.endpoints[entry.2]?.map fun compiledEndpoint =>
        ⟨compiledEndpoint.endpoint, candidate.compiled.backendName⟩, st)

def selectCompiledHttpFastBackend (refs : List CompiledHttpFastBackendRef) (now : Instant)
    (st : SelectionState) : Option CompiledHttpFastBackendSelection × SelectionState :=
  let candidates := s.compiledCandidates refs now
  let totalWeight := Weighted.total CompiledCandidate.weight candidates
  if totalWeight = 0 then (none, st)
  else
    let (ticket, st) := st.nextBackendTicket
    let target := spreadWeightedTarget ticket totalWeight
    match Weighted.pickWeighted CompiledCandidate.weight target 0 candidates with
    | none => (none, st)
    | some candidate => s.selectCompiledHttpFastEndpoint candidate now st

end Snapshot

end NantianGateway
