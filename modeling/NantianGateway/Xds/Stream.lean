import NantianGateway.Lib.Text

/-!
# The snapshot stream

`run_stream`: a snapshot of a new version is decoded, stored and announced; the listener runtimes
apply it, each reporting into registers of its own, and the stream answers with an ACK once every
needed runtime reports the version as its last good one.  How the decoder names protocols is a
parameter.
-/

namespace NantianGateway.Xds

open Text Option

/-! ## Messages -/

inductive ListenerProtocol where
  | unspecified
  | http
  | https
  | grpc
  | http3
  | tcp
  | udp
  | tlsPassthrough
  | tls
  deriving DecidableEq

def ListenerProtocol.asStrName : ListenerProtocol → String
  | unspecified => "LISTENER_UNSPECIFIED"
  | http => "LISTENER_HTTP"
  | https => "LISTENER_HTTPS"
  | grpc => "LISTENER_GRPC"
  | http3 => "LISTENER_HTTP3"
  | tcp => "LISTENER_TCP"
  | udp => "LISTENER_UDP"
  | tlsPassthrough => "LISTENER_TLS_PASSTHROUGH"
  | tls => "LISTENER_TLS"

/-- The snapshot of a response: its id, the protocols of its listeners, and the features it
asks for. -/
structure ConfigPayload where
  id : String := ""
  listeners : List ListenerProtocol := []
  requiredFeatures : List String := []

structure DiscoveryResponse where
  version : String := ""
  nonce : String := ""
  snapshot : Option ConfigPayload := none

inductive DiscoveryResult where
  | ack (version nonce : String)
  | nack (version nonce errorDetail : String)
  deriving DecidableEq

structure StoredSnapshot where
  id : String := ""
  protocols : List String := []
  deriving DecidableEq

def fromProtoWithoutRuntimeIndexes (names : ListenerProtocol → String) (config : ConfigPayload) :
    StoredSnapshot :=
  ⟨config.id, config.listeners.map names⟩

/-! ## Versions -/

def snapshotVersionFromResponse (messageVersion : String) (config : ConfigPayload) :
    Option String :=
  if trim config.id ≠ "" then some (trim config.id)
  else if trim messageVersion ≠ "" then some (trim messageVersion)
  else none

def shouldApplySnapshot (currentVersion : String) (nextVersion : Option String) : Bool :=
  nextVersion.all fun version => currentVersion != version

/-! ## Features -/

def canonicalizeSupportedFeatures (items : List String) : List String :=
  (((items.map trim).filter fun item => item ≠ "").eraseDups).mergeSort fun a b => decide (a ≤ b)

def supportedFeatures : List String :=
  canonicalizeSupportedFeatures
    ["core.v1", "route.labels.v1", "backend.ai_service.v1", "backend.token_policy.v1",
      "backend.wasm_plugin.v1"]

variable (config : ConfigPayload)

def preflightRequiredFeatures (supported : List String) : Except String Unit :=
  let missing := (canonicalizeSupportedFeatures config.requiredFeatures).filter fun feature =>
    feature ∉ canonicalizeSupportedFeatures supported
  if missing = [] then .ok ()
  else .error ("snapshot requires unsupported features: " ++ ", ".intercalate missing)

def preflightSnapshotBeforeSwap (versionHint : Option String)
    (supported : List String) : Except (String × String) Unit :=
  match preflightRequiredFeatures config supported with
  | .ok () => .ok ()
  | .error errorDetail =>
    .error (((versionHint.map trim).filter fun version => version ≠ "").getD config.id,
      errorDetail)

/-! ## The runtimes and their registers -/

inductive RuntimePlane where
  | http
  | tls
  | stream
  deriving DecidableEq

structure RuntimeListenerFailure where
  listener : String
  message : String

/-- The registers of one plane. -/
structure PlaneRegisters where
  lastGoodReloadVersion : String := ""
  lastReloadFailureVersion : String := ""
  lastReloadFailureMessage : String := ""

/-- `observe_*_listener_reload_result`, the same for each plane: success clears the failure,
failure leaves the last good version. -/
def PlaneRegisters.observe (registers : PlaneRegisters) (version : String)
    (failures : List RuntimeListenerFailure) : PlaneRegisters :=
  match failures with
  | [] => { lastGoodReloadVersion := version }
  | first :: _ =>
    { registers with
      lastReloadFailureVersion := version
      lastReloadFailureMessage := first.message }

structure RuntimeApplyRequirements where
  http : Bool := false
  tls : Bool := false
  stream : Bool := false
  deriving DecidableEq

variable (requirements : RuntimeApplyRequirements)

def RuntimeApplyRequirements.needs : RuntimePlane → Bool
  | .http => requirements.http
  | .tls => requirements.tls
  | .stream => requirements.stream

theorem RuntimeApplyRequirements.eq_empty_iff {requirements : RuntimeApplyRequirements} :
    requirements = {} ↔ ∀ plane, requirements.needs plane = false := by
  constructor
  · rintro rfl (_ | _ | _) <;> rfl
  · intro h
    rw [RuntimeApplyRequirements.mk.injEq]
    exact ⟨h .http, h .tls, h .stream⟩

variable (protocol : String)

def requiresHttpRuntime : Bool :=
  protocol ∈ ["LISTENER_PROTOCOL_HTTP", "LISTENER_PROTOCOL_HTTP3", "LISTENER_PROTOCOL_GRPC",
    "HTTP", "HTTP3", "GRPC"]

def requiresTlsRuntime : Bool :=
  protocol ∈ ["LISTENER_PROTOCOL_HTTPS", "LISTENER_PROTOCOL_TLS_PASSTHROUGH", "HTTPS", "TLS",
    "TLS_PASSTHROUGH"]

def requiresStreamRuntime : Bool :=
  protocol ∈ ["LISTENER_PROTOCOL_TCP", "LISTENER_PROTOCOL_UDP", "TCP", "UDP"]

def snapshotRuntimeApplyRequirements (snapshot : StoredSnapshot) : RuntimeApplyRequirements where
  http := snapshot.protocols.any requiresHttpRuntime
  tls := snapshot.protocols.any requiresTlsRuntime
  stream := snapshot.protocols.any requiresStreamRuntime

def requiredRuntimeNames : String :=
  match requirements.http, requirements.tls, requirements.stream with
  | true, true, true => "HTTP, TLS, and stream"
  | true, true, false => "HTTP and TLS"
  | true, false, true => "HTTP and stream"
  | false, true, true => "TLS and stream"
  | true, false, false => "HTTP"
  | false, true, false => "TLS"
  | false, false, true => "stream"
  | false, false, false => "listener"

variable (runtime : RuntimePlane → PlaneRegisters) (version : String)

def planeReady (requirements : RuntimeApplyRequirements) (plane : RuntimePlane) : Bool :=
  !requirements.needs plane || (runtime plane).lastGoodReloadVersion == version

def planeFailure (requirements : RuntimeApplyRequirements) (plane : RuntimePlane) (name : String) :
    Option String :=
  if requirements.needs plane ∧ (runtime plane).lastReloadFailureVersion = version ∧
      (runtime plane).lastReloadFailureMessage ≠ "" then
    some (name ++ " runtime apply failed: " ++ (runtime plane).lastReloadFailureMessage)
  else none

def currentRuntimeApplyResult
    (requirements : RuntimeApplyRequirements) : Option (Except String Unit) :=
  if planeReady runtime version requirements .http && planeReady runtime version requirements .tls
      && planeReady runtime version requirements .stream then some (.ok ())
  else
    (((planeFailure runtime version requirements .http "HTTP").or
      (planeFailure runtime version requirements .tls "TLS")).or
        (planeFailure runtime version requirements .stream "stream")).map .error

theorem applyResult_eq_ok_iff {runtime : RuntimePlane → PlaneRegisters}
    {version : String} {requirements : RuntimeApplyRequirements} :
    currentRuntimeApplyResult runtime version requirements = some (.ok ()) ↔
      ∀ plane, requirements.needs plane = true →
        (runtime plane).lastGoodReloadVersion = version := by
  have hready : ∀ plane, planeReady runtime version requirements plane = true ↔
      (requirements.needs plane = true → (runtime plane).lastGoodReloadVersion = version) := by
    intro plane
    rw [planeReady, Bool.or_eq_true, Bool.not_eq_true', beq_iff_eq, ← Bool.not_eq_true,
      imp_iff_not_or]
  rw [currentRuntimeApplyResult]
  constructor
  · intro h plane
    split at h
    · next hall =>
      rw [Bool.and_eq_true, Bool.and_eq_true, hready, hready, hready] at hall
      cases plane with
      | http => exact hall.1.1
      | tls => exact hall.1.2
      | stream => exact hall.2
    · obtain ⟨_, -, h⟩ := map_eq_some_iff.mp h
      cases h
  · intro h
    rw [if_pos]
    rw [Bool.and_eq_true, Bool.and_eq_true]
    exact ⟨⟨(hready .http).mpr (h .http), (hready .tls).mpr (h .tls)⟩,
      (hready .stream).mpr (h .stream)⟩

/-! ## The stream -/

structure Waiting where
  version : String
  requirements : RuntimeApplyRequirements
  nonce : String

structure StreamState where
  stored : StoredSnapshot := {}
  runtime : RuntimePlane → PlaneRegisters := fun _ => {}
  waiting : Option Waiting := none

variable (msg : DiscoveryResponse)

def workingVersion (config : ConfigPayload) : String :=
  (snapshotVersionFromResponse msg.version config).getD config.id

section

variable (names : ListenerProtocol → String) (supported : List String) (st : StreamState)

/-- A response, up to the point where the stream has to wait. -/
def receive (msg : DiscoveryResponse) : StreamState × Option DiscoveryResult :=
  match msg.snapshot with
  | none => (st, none)
  | some config =>
    let nextVersion := snapshotVersionFromResponse msg.version config
    if shouldApplySnapshot st.stored.id nextVersion then
      match preflightSnapshotBeforeSwap config nextVersion supported with
      | .error (version, errorDetail) => (st, some (.nack version msg.nonce errorDetail))
      | .ok () =>
        let next := fromProtoWithoutRuntimeIndexes names config
        let version := nextVersion.getD next.id
        let requirements := snapshotRuntimeApplyRequirements next
        if !requirements.http && !requirements.tls && !requirements.stream then
          ({ st with stored := next }, some (.ack version msg.nonce))
        else
          ({ st with stored := next, waiting := some ⟨version, requirements, msg.nonce⟩ }, none)
    else (st, some (.ack (nextVersion.getD st.stored.id) msg.nonce))

def poll (waiting : Waiting) : StreamState × Option DiscoveryResult :=
  match currentRuntimeApplyResult st.runtime waiting.version waiting.requirements with
  | none => (st, none)
  | some (.ok ()) =>
    ({ st with waiting := none }, some (.ack waiting.version waiting.nonce))
  | some (.error errorDetail) =>
    ({ st with waiting := none }, some (.nack waiting.version waiting.nonce errorDetail))

def giveUp (waiting : Waiting) : StreamState × Option DiscoveryResult :=
  ({ st with waiting := none }, some (.nack waiting.version waiting.nonce
    ("timed out waiting for " ++ requiredRuntimeNames waiting.requirements
      ++ " runtime apply result for snapshot " ++ waiting.version)))

/-- What can happen while the stream runs. -/
inductive StreamAction where
  | receive (msg : DiscoveryResponse)
  | report (plane : RuntimePlane) (version : String) (failures : List RuntimeListenerFailure)
  | poll
  | timeout

/-- One step of the stream and the runtimes; a response is taken only by a stream that does
not wait. -/
def streamStep (action : StreamAction) : Option (StreamState × Option DiscoveryResult) :=
  match action with
  | .receive msg => if st.waiting.isNone then some (receive names supported st msg) else none
  | .report plane version failures =>
    some ({ st with
      runtime := Function.update st.runtime plane ((st.runtime plane).observe version failures) },
      none)
  | .poll => st.waiting.map (poll st)
  | .timeout => st.waiting.map (giveUp st)

end

/-! ## The version and the id

Three places use the version of a response: what the stream waits for, what it sends, and
what it compares the next response with.  The last is the id of the stored snapshot. -/

theorem trim_empty : trim "" = "" := by decide

/-- **The working version is the id exactly when the id is trimmed and not empty, or id and message
version are blank.** -/
theorem workingVersion_eq_id_iff (config : ConfigPayload) : workingVersion msg config = config.id ↔
      (trim config.id = config.id ∧ config.id ≠ "") ∨
        (trim config.id = "" ∧ trim msg.version = "") := by
  rw [workingVersion, snapshotVersionFromResponse]
  by_cases hid : trim config.id = ""
  · rw [if_neg (not_not.mpr hid)]
    have hno : ¬ (trim config.id = config.id ∧ config.id ≠ "") := by
      rintro ⟨htrim, hne⟩
      exact hne (htrim.symm.trans hid)
    by_cases hmsg : trim msg.version = ""
    · rw [if_neg (not_not.mpr hmsg)]
      exact iff_of_true rfl (.inr ⟨hid, hmsg⟩)
    · rw [if_pos hmsg, getD_some]
      refine iff_of_false (fun h => hmsg ?_) (not_or.mpr ⟨hno, fun h => hmsg h.2⟩)
      -- a trimmed version that equals the id would be trimmed away with it
      rw [← trim_trim, h, hid]
  · rw [if_pos hid, getD_some]
    constructor
    · intro h
      exact .inl ⟨h, fun hnil => hid (by rw [hnil, trim_empty])⟩
    · rintro (⟨h, -⟩ | ⟨h, -⟩)
      · exact h
      · exact absurd h hid

/-- The response is stored: it is no duplicate, and asks for no feature that is missing. -/
def SwappedIn (supported : List String) (st : StreamState) (msg : DiscoveryResponse)
    (config : ConfigPayload) : Prop :=
  shouldApplySnapshot st.stored.id (snapshotVersionFromResponse msg.version config) = true ∧
    preflightSnapshotBeforeSwap config (snapshotVersionFromResponse msg.version config) supported
      = .ok ()

instance (supported : List String) (st : StreamState) (msg : DiscoveryResponse)
    (config : ConfigPayload) : Decidable (SwappedIn supported st msg config) :=
  haveI : Decidable (preflightSnapshotBeforeSwap config
      (snapshotVersionFromResponse msg.version config) supported = .ok ()) :=
    match preflightSnapshotBeforeSwap config
      (snapshotVersionFromResponse msg.version config) supported with
    | .ok () => .isTrue rfl
    | .error _ => .isFalse (by simp)
  inferInstanceAs (Decidable (_ ∧ _))

section

variable {names : ListenerProtocol → String} {supported : List String} {st : StreamState}
  {msg : DiscoveryResponse} {config : ConfigPayload}

theorem receive_of_swappedIn (hmsg : msg.snapshot = some config)
    (h : SwappedIn supported st msg config) :
    receive names supported st msg
      = if snapshotRuntimeApplyRequirements (fromProtoWithoutRuntimeIndexes names config) = {} then
          ({ st with stored := fromProtoWithoutRuntimeIndexes names config },
            some (.ack (workingVersion msg config) msg.nonce))
        else
          ({ st with
              stored := fromProtoWithoutRuntimeIndexes names config
              waiting := some ⟨workingVersion msg config, snapshotRuntimeApplyRequirements
                (fromProtoWithoutRuntimeIndexes names config), msg.nonce⟩ }, none) := by
  rw [receive, hmsg]
  simp only [h.1, h.2, if_true]
  refine if_congr ?_ rfl rfl
  rw [Bool.and_eq_true, Bool.and_eq_true, Bool.not_eq_true', Bool.not_eq_true', Bool.not_eq_true',
    RuntimeApplyRequirements.mk.injEq, and_assoc]

theorem receive_of_duplicate (hmsg : msg.snapshot = some config)
    (h : shouldApplySnapshot st.stored.id (snapshotVersionFromResponse msg.version config)
      = false) :
    receive names supported st msg = (st, some (.ack st.stored.id msg.nonce)) ∧
      workingVersion msg config = st.stored.id := by
  have hversion : snapshotVersionFromResponse msg.version config = some st.stored.id := by
    cases hnext : snapshotVersionFromResponse msg.version config with
    | none => simp [hnext, shouldApplySnapshot] at h
    | some version =>
      rw [hnext, shouldApplySnapshot, all_some, bne_eq_false_iff_eq] at h
      rw [h]
  refine ⟨?_, by rw [workingVersion, hversion, getD_some]⟩
  rw [receive, hmsg]
  simp only [h, Bool.false_eq_true, if_false]
  rw [hversion, getD_some]

theorem receive_of_refused (hmsg : msg.snapshot = some config)
    (happly : shouldApplySnapshot st.stored.id (snapshotVersionFromResponse msg.version config)
      = true) (h : ¬ SwappedIn supported st msg config) :
    ∃ version errorDetail,
      receive names supported st msg = (st, some (.nack version msg.nonce errorDetail)) := by
  rw [receive, hmsg]
  simp only [happly, if_true]
  cases hpreflight : preflightSnapshotBeforeSwap config
      (snapshotVersionFromResponse msg.version config) supported with
  | ok u => exact absurd ⟨happly, hpreflight⟩ h
  | error e => exact ⟨e.1, e.2, rfl⟩

end

def versionInUse (out : StreamState × Option DiscoveryResult) : Option String :=
  match out.2 with
  | some (.ack version _) => some version
  | some (.nack version _ _) => some version
  | none => out.1.waiting.map Waiting.version

/-- **The version and the id.** A stored response is acknowledged or waited for under the id of the
stored snapshot exactly when the id is trimmed and not empty, or id and message version are blank.
-/
theorem stream_version_identity (names : ListenerProtocol → String) (supported : List String)
    (st : StreamState) (msg : DiscoveryResponse) (config : ConfigPayload)
    (hmsg : msg.snapshot = some config) :
    (SwappedIn supported st msg config → (receive names supported st msg).1.stored.id = config.id ∧
      (versionInUse (receive names supported st msg)
          = some (receive names supported st msg).1.stored.id ↔
        (trim config.id = config.id ∧ config.id ≠ "") ∨
          (trim config.id = "" ∧ trim msg.version = "")) ∧
      (shouldApplySnapshot (receive names supported st msg).1.stored.id
          (snapshotVersionFromResponse msg.version config) = false ↔
        trim config.id = config.id ∧ config.id ≠ "")) ∧
    (shouldApplySnapshot st.stored.id (snapshotVersionFromResponse msg.version config) = false →
      versionInUse (receive names supported st msg)
        = some (receive names supported st msg).1.stored.id) ∧
    ∀ waiting, st.waiting = some waiting → ∀ out ∈ [poll st waiting, giveUp st waiting],
      versionInUse out = some waiting.version := by
  refine ⟨fun h => ?_, fun h => ?_, fun waiting hwait out hout => ?_⟩
  · have hstored : (receive names supported st msg).1.stored.id = config.id := by
      rw [receive_of_swappedIn hmsg h]
      split <;> rfl
    have hversion : versionInUse (receive names supported st msg)
        = some (workingVersion msg config) := by
      rw [receive_of_swappedIn hmsg h]
      split
      · rw [versionInUse]
      · rw [versionInUse, map_some]
    refine ⟨hstored, ?_, ?_⟩
    · rw [hstored, hversion, Option.some.injEq, workingVersion_eq_id_iff]
    · rw [hstored, shouldApplySnapshot, snapshotVersionFromResponse]
      by_cases hid : trim config.id = ""
      · rw [if_neg (not_not.mpr hid)]
        refine iff_of_false ?_ fun h => h.2 (h.1.symm.trans hid)
        by_cases hmsg : trim msg.version = ""
        · rw [if_neg (not_not.mpr hmsg)]
          simp
        · rw [if_pos hmsg, all_some, bne_eq_false_iff_eq]
          intro heq
          exact hmsg (by rw [← trim_trim, ← heq, hid])
      · rw [if_pos hid, all_some, bne_eq_false_iff_eq, eq_comm]
        refine ⟨fun htrim => ⟨htrim, fun hnil => hid ?_⟩, fun h => h.1⟩
        rw [htrim, hnil]
  · rw [(receive_of_duplicate hmsg h).1]
    rfl
  · rcases List.mem_pair.mp hout with rfl | rfl
    · rw [poll]
      split
      · exact congrArg (Option.map Waiting.version) hwait
      · rfl
      · rfl
    · rfl

theorem stream_version_identity_plain :
    SwappedIn supportedFeatures {} { snapshot := some { id := "v1" } } { id := "v1" } ∧
    versionInUse (receive ListenerProtocol.asStrName supportedFeatures {}
        { snapshot := some { id := "v1" } }) = some "v1" := by
  have hswap : SwappedIn supportedFeatures {} { snapshot := some { id := "v1" } }
      { id := "v1" } := by decide +kernel
  have h := ((stream_version_identity ListenerProtocol.asStrName supportedFeatures {}
    { snapshot := some { id := "v1" } } { id := "v1" } rfl).1 hswap)
  exact ⟨hswap, by rw [h.2.1.mpr (.inl ⟨by decide, by decide⟩), h.1]⟩

/-- **White space around the id, or an empty id**: the stored snapshot has one id, the
stream works under another. -/
theorem stream_version_differs_from_id : (receive ListenerProtocol.asStrName supportedFeatures {}
        { version := "v1", snapshot := some { id := " v1 " } }).1.stored.id = " v1 " ∧
    versionInUse (receive ListenerProtocol.asStrName supportedFeatures {}
        { version := "v1", snapshot := some { id := " v1 " } }) = some "v1" ∧
    (receive ListenerProtocol.asStrName supportedFeatures {}
        { version := "v2", snapshot := some { id := "" } }).1.stored.id = "" ∧
    versionInUse (receive ListenerProtocol.asStrName supportedFeatures {}
        { version := "v2", snapshot := some { id := "" } }) = some "v2" := by
  decide +kernel

end NantianGateway.Xds
