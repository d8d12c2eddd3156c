import NantianGateway.Ir.ServiceIndex

/-!
# The plan of the TLS binds

`build_listener_plan`: a passthrough listener gives its addresses a passthrough surface, an HTTPS
listener a terminate surface, if one of its certificates is known, and a *mixed* listener, whose
protocol is spelled `LISTENER_PROTOCOL_TLS`, both.  The test that is made beforehand
(`sharedTlsListenerProtocol`) does not know the mixed listeners.
-/

namespace NantianGateway.SharedTls

open Text List

/-! ## What the plan reads -/

structure FrontendValidation where
  caPems : List String := []
  mode : String := ""
  deriving DecidableEq

structure TlsConfig where
  enabled : Bool := false
  passthrough : Bool := false
  secretRefs : List String := []
  frontendValidation : Option FrontendValidation := none
  deriving DecidableEq

structure TlsListener extends Listener where
  address : String := ""
  addresses : List String := []
  tls : Option TlsConfig := none
  deriving DecidableEq

structure SecretMaterial where
  «namespace» : String := ""
  name : String := ""
  certPem : String := ""
  keyPem : String := ""
  deriving DecidableEq

structure PlanSnapshot where
  id : String := ""
  listeners : List TlsListener := []
  secrets : List SecretMaterial := []

structure RuntimeOptions where
  enableIpv6 : Bool := false

inductive SharedTlsError where
  | certificate (message : String)
  | handshake (message : String)
  | bind (message : String)
  | identityConfig (message : String)
  deriving DecidableEq

def SharedTlsError.toText : SharedTlsError → String
  | certificate message => "TLS certificate error: " ++ message
  | handshake message => "TLS handshake error: " ++ message
  | bind message => "TLS bind error: " ++ message
  | identityConfig message => "TLS identity configuration error: " ++ message

/-- A certificate: its alternative names, where it has the extension, with the DNS name of
each that is one, and its common name. -/
structure Certificate where
  subjectAltNames : Option (List (Option String)) := none
  commonName : Option String := none

/-- The functions of the TLS library that read PEM texts; an error is its text. -/
structure PemReader where
  stackFromPem : String → Except String (List Certificate)
  privateKeyFromPem : String → Except String Unit

/-! ## The plan -/

structure SharedTlsIdentity where
  secretRef : String
  certPem : String
  keyPem : String
  matchNames : List String
  deriving DecidableEq

structure TerminateSurface where
  listenerNames : List String := []
  identities : List SharedTlsIdentity := []
  frontendValidationMode : Option String := none
  clientCaBundlePem : Option String := none
  deriving DecidableEq

structure PassthroughSurface where
  listenerNames : List String := []
  deriving DecidableEq

structure PlannedSharedTlsBind where
  bind : String
  terminate : Option TerminateSurface := none
  passthrough : Option PassthroughSurface := none
  deriving DecidableEq

structure ListenerPlan where
  binds : BTreeMap PlannedSharedTlsBind := .empty
  deriving DecidableEq

/-! ## Names and addresses -/

def normalizeTlsServerName (value : String) : String := asciiLower (trimEndMatches '.' (trim value))

def certificateMatchNames (cert : Certificate) : List String :=
  let names := (cert.subjectAltNames.getD []).foldl (fun names san =>
    match san.map normalizeTlsServerName with
    | none => names
    | some normalized =>
      if normalized ≠ "" ∧ normalized ∉ names then names ++ [normalized] else names) []
  if names = [] then
    ((cert.commonName.map normalizeTlsServerName).filter fun normalized => normalized ≠ "").toList
  else names

def socketAddr (address : String) (port : UInt32) : String :=
  if contains address ":" && !startsWith address "[" then "[" ++ address ++ "]:" ++ portText port
  else address ++ ":" ++ portText port

def bindAddrs (address : String) (port : UInt32) (enableIpv6 : Bool) : List String :=
  let host := if address = "" then "0.0.0.0" else address
  if enableIpv6 && host == "0.0.0.0" then ["0.0.0.0:" ++ portText port, "[::]:" ++ portText port]
  else [socketAddr host port]

def distinctTrimmed (values : List String) : List String :=
  ((values.map trim).filter fun value => value ≠ "").eraseDups

variable (listener : TlsListener)

def listenerConfiguredAddresses : List String :=
  let configured := distinctTrimmed listener.addresses
  if configured ≠ [] then configured
  else
    let annotated :=
      match listener.metadata.get "nantian.dev/listener-addresses" with
      | none => []
      | some raw => distinctTrimmed ((raw.toList.splitOn ',').map String.ofList)
    if annotated ≠ [] then annotated
    else if listener.address ≠ "" then [listener.address]
    else ["0.0.0.0"]

def listenerBindAddrs (runtime : RuntimeOptions) : List String :=
  (((listenerConfiguredAddresses listener).flatMap fun address =>
    bindAddrs address listener.port runtime.enableIpv6).eraseDups).mergeSort fun a b =>
      decide (a ≤ b)

/-! ## Which listeners are planned -/

def isTlsPassthroughListener : Bool :=
  decide (listener.protocol ∈ ["LISTENER_PROTOCOL_TLS_PASSTHROUGH", "TLS", "TLS_PASSTHROUGH"])
    && listener.tls.any fun tls => tls.enabled && tls.passthrough

def isMixedTlsListener : Bool :=
  listener.protocol == "LISTENER_PROTOCOL_TLS"
    && listener.tls.any fun tls => tls.enabled && !tls.passthrough

def isHttpsTerminateListener : Bool :=
  decide (listener.protocol ∈ ["LISTENER_PROTOCOL_HTTPS", "HTTPS"])
    && listener.tls.any fun tls => tls.enabled && !tls.passthrough

def isPlanned : Bool :=
  isTlsPassthroughListener listener || isMixedTlsListener listener
    || isHttpsTerminateListener listener

def sharedTlsListenerProtocol (protocol : String) : Bool :=
  protocol ∈ ["LISTENER_PROTOCOL_HTTPS", "LISTENER_PROTOCOL_TLS_PASSTHROUGH", "HTTPS", "TLS",
    "TLS_PASSTHROUGH"]

/-! ## Certificates and client validation -/

def frontendValidationMode : Option String :=
  let mode := ((listener.tls.bind fun tls => tls.frontendValidation).map fun validation =>
    trim validation.mode).getD ""
  if mode = "" then none else some mode

def frontendValidationBundle : Option String :=
  let bundle := ((listener.tls.bind fun tls => tls.frontendValidation).map fun validation =>
    "\n".intercalate (validation.caPems.filter fun item => item ≠ "")).getD ""
  if bundle = "" then none else some bundle

/-- A surface takes over the first request for client validation, and refuses a second one that
is not the same. -/
def mergeFrontendValidation (terminate : TerminateSurface)
    (requestedMode requestedClientCaBundlePem : Option String) (bind : String) :
    Except SharedTlsError TerminateSurface :=
  if requestedMode.isNone && requestedClientCaBundlePem.isNone then .ok terminate
  else if terminate.frontendValidationMode.isNone && terminate.clientCaBundlePem.isNone then
    .ok { terminate with
      frontendValidationMode := requestedMode
      clientCaBundlePem := requestedClientCaBundlePem }
  else if terminate.frontendValidationMode = requestedMode ∧
      terminate.clientCaBundlePem = requestedClientCaBundlePem then .ok terminate
  else .error (.identityConfig ("frontend validation conflict on shared tls bind " ++ bind))

section

variable (pem : PemReader)

def buildTlsIdentity (secretRef : String) (secret : SecretMaterial) :
    Except SharedTlsError SharedTlsIdentity :=
  match pem.stackFromPem secret.certPem with
  | .error message => .error (.certificate ("parse certificate PEM: " ++ message))
  | .ok [] => .error (.certificate "no certificates found in PEM")
  | .ok (leaf :: _) =>
    match pem.privateKeyFromPem secret.keyPem with
    | .error message => .error (.certificate ("parse private key PEM: " ++ message))
    | .ok () => .ok ⟨secretRef, secret.certPem, secret.keyPem, certificateMatchNames leaf⟩

/-- The identities of a listener; a reference to an unknown secret is passed over. -/
def resolveTlsIdentities (listener : TlsListener) (snapshot : PlanSnapshot) :
    Except SharedTlsError (List SharedTlsIdentity) :=
  match listener.tls with
  | none => .ok []
  | some tls =>
    (tls.secretRefs.filterMap fun secretRef =>
      (snapshot.secrets.find? fun secret =>
        secret.namespace ++ "/" ++ secret.name = secretRef).map fun secret =>
          (secretRef, secret)).mapM fun found => buildTlsIdentity pem found.1 found.2

/-! ## Building the plan -/

def addPassthrough (listener : TlsListener) (binds : BTreeMap PlannedSharedTlsBind)
    (bind : String) : BTreeMap PlannedSharedTlsBind :=
  let shared := (binds.get bind).getD { bind := bind }
  binds.insert bind { shared with
      passthrough :=
        some ⟨(shared.passthrough.getD {}).listenerNames ++ [listener.name]⟩ }

def addTerminate (listener : TlsListener) (identities : List SharedTlsIdentity)
    (binds : BTreeMap PlannedSharedTlsBind) (bind : String) :
    Except SharedTlsError (BTreeMap PlannedSharedTlsBind) :=
  let shared := (binds.get bind).getD { bind := bind }
  let isMixed := isMixedTlsListener listener
  if (isMixed || isTlsPassthroughListener listener) && shared.passthrough.isSome && !isMixed then
    .ok (binds.insert bind shared)
  else
    match mergeFrontendValidation (shared.terminate.getD {}) (frontendValidationMode listener)
      (frontendValidationBundle listener) shared.bind with
    | .error error => .error error
    | .ok terminate =>
      .ok (binds.insert bind { shared with
          terminate := some { terminate with
              listenerNames := terminate.listenerNames ++ [listener.name]
              identities := terminate.identities ++ identities } })

def planPassthrough (runtime : RuntimeOptions) (binds : BTreeMap PlannedSharedTlsBind)
    (listener : TlsListener) : BTreeMap PlannedSharedTlsBind :=
  if isTlsPassthroughListener listener || isMixedTlsListener listener then
    (listenerBindAddrs listener runtime).foldl (addPassthrough listener) binds
  else binds

variable (snapshot : PlanSnapshot) (runtime : RuntimeOptions)

def planTerminate (binds : BTreeMap PlannedSharedTlsBind) (listener : TlsListener) :
    Except SharedTlsError (BTreeMap PlannedSharedTlsBind) :=
  if !isHttpsTerminateListener listener && !isMixedTlsListener listener then .ok binds
  else
    match resolveTlsIdentities pem listener snapshot with
    | .error error => .error error
    | .ok [] => .ok binds
    | .ok identities =>
      (listenerBindAddrs listener runtime).foldlM (addTerminate listener identities) binds

def planListener (binds : BTreeMap PlannedSharedTlsBind) (listener : TlsListener) :
    Except SharedTlsError (BTreeMap PlannedSharedTlsBind) :=
  if !isPlanned listener then .ok binds
  else planTerminate pem snapshot runtime (planPassthrough runtime binds listener) listener

def buildListenerPlan : Except SharedTlsError ListenerPlan :=
  (snapshot.listeners.foldlM (planListener pem snapshot runtime) .empty).map fun binds => ⟨binds⟩

def desiredListenerPlan : Except SharedTlsError (Option ListenerPlan) :=
  if !snapshot.listeners.any fun listener => sharedTlsListenerProtocol listener.protocol then
    .ok none
  else
    match buildListenerPlan pem snapshot runtime with
    | .error error => .error error
    | .ok plan => if plan.binds.entries.isEmpty then .ok none else .ok (some plan)

end

/-! ## What is in a plan -/

def bindListenerNames (bind : PlannedSharedTlsBind) : List String :=
  ((((bind.terminate.map TerminateSurface.listenerNames).getD []) ++
    ((bind.passthrough.map PassthroughSurface.listenerNames).getD [])).eraseDups).mergeSort
      fun a b => decide (a ≤ b)

theorem mem_bindListenerNames {bind : PlannedSharedTlsBind} {name : String} :
    name ∈ bindListenerNames bind ↔
      (∃ surface, bind.terminate = some surface ∧ name ∈ surface.listenerNames) ∨
        ∃ surface, bind.passthrough = some surface ∧ name ∈ surface.listenerNames := by
  rw [bindListenerNames, mem_mergeSort, mem_eraseDups, mem_append]
  cases bind.terminate <;> cases bind.passthrough <;> simp

/-- Every bind is filed under its address, and is there for some listener. -/
def WellFiled (binds : BTreeMap PlannedSharedTlsBind) : Prop :=
  ∀ key bind, binds.get key = some bind → bind.bind = key ∧ bindListenerNames bind ≠ []

theorem wellFiled_empty : WellFiled .empty := by
  intro key bind h
  cases h

variable {binds : BTreeMap PlannedSharedTlsBind}

theorem WellFiled.insert (h : WellFiled binds) {key : String} {bind : PlannedSharedTlsBind}
    (hkey : bind.bind = key) (hnames : bindListenerNames bind ≠ []) :
    WellFiled (binds.insert key bind) := by
  intro key' bind' hget
  rw [BTreeMap.insert, BTreeMap.get_alter] at hget
  split at hget
  next heq =>
    obtain rfl := Option.some.inj hget
    exact ⟨hkey.trans heq.symm, hnames⟩
  next => exact h key' bind' hget

theorem WellFiled.bind_getD (h : WellFiled binds) (key : String) :
    ((binds.get key).getD { bind := key }).bind = key := by
  cases hget : binds.get key with
  | none => rfl
  | some bind => exact (h key bind hget).1

theorem WellFiled.addPassthrough (h : WellFiled binds) (listener : TlsListener) (key : String) :
    WellFiled (addPassthrough listener binds key) := by
  refine h.insert (h.bind_getD key) (ne_nil_of_mem (a := listener.name) ?_)
  exact mem_bindListenerNames.mpr (.inr ⟨_, rfl, mem_append_right _ (mem_singleton_self _)⟩)

theorem WellFiled.addTerminate {binds' : BTreeMap PlannedSharedTlsBind} (h : WellFiled binds)
    {listener : TlsListener} {identities : List SharedTlsIdentity} {key : String}
    (hadd : addTerminate listener identities binds key = .ok binds') : WellFiled binds' := by
  rw [SharedTls.addTerminate] at hadd
  split at hadd
  next hskip =>
    -- the address is left as it is, which it was already
    obtain rfl := Except.ok.inj hadd
    cases hget : binds.get key with
    | none => simp [hget] at hskip
    | some bind =>
      exact h.insert (h key bind hget).1 (h key bind hget).2
  next =>
    split at hadd
    · cases hadd
    · obtain rfl := Except.ok.inj hadd
      refine h.insert (h.bind_getD key) (ne_nil_of_mem (a := listener.name) ?_)
      exact mem_bindListenerNames.mpr (.inl ⟨_, rfl, mem_append_right _ (mem_singleton_self _)⟩)

theorem of_foldlM_ok {ε α β : Type} {f : β → α → Except ε β} {P : β → Prop} {l : List α}
    (hstep : ∀ acc, P acc → ∀ x ∈ l, ∀ acc', f acc x = .ok acc' → P acc') {init out : β}
    (hinit : P init) (hout : l.foldlM f init = .ok out) : P out := by
  induction l generalizing init with
  | nil =>
    obtain rfl := Except.ok.inj hout
    exact hinit
  | cons x l ih =>
    rw [foldlM_cons] at hout
    cases hfirst : f init x with
    | error error =>
      rw [hfirst] at hout
      cases hout
    | ok acc =>
      rw [hfirst] at hout
      exact ih (fun acc hacc y hy => hstep acc hacc y (mem_cons_of_mem _ hy))
        (hstep init hinit x mem_cons_self acc hfirst) hout

section

variable {pem : PemReader} {snapshot : PlanSnapshot} {runtime : RuntimeOptions}

theorem WellFiled.planPassthrough {binds : BTreeMap PlannedSharedTlsBind} (h : WellFiled binds)
    (listener : TlsListener) : WellFiled (planPassthrough runtime binds listener) := by
  rw [SharedTls.planPassthrough]
  split
  · generalize listenerBindAddrs listener runtime = addresses
    induction addresses using List.reverseRecOn with
    | nil => exact h
    | append_singleton addresses address ih =>
      rw [foldl_append]
      exact ih.addPassthrough listener address
  · exact h

theorem WellFiled.planListener {binds binds' : BTreeMap PlannedSharedTlsBind} (h : WellFiled binds)
    {listener : TlsListener}
    (hplan : planListener pem snapshot runtime binds listener = .ok binds') :
    WellFiled binds' := by
  rw [SharedTls.planListener] at hplan
  split at hplan
  next =>
    obtain rfl := Except.ok.inj hplan
    exact h
  next =>
    have hfirst : WellFiled (SharedTls.planPassthrough runtime binds listener) :=
      h.planPassthrough listener
    rw [planTerminate] at hplan
    split at hplan
    · obtain rfl := Except.ok.inj hplan
      exact hfirst
    · split at hplan
      · cases hplan
      · obtain rfl := Except.ok.inj hplan
        exact hfirst
      · exact of_foldlM_ok (fun acc hacc address _ acc' hadd => hacc.addTerminate hadd) hfirst hplan

theorem wellFiled_of_buildListenerPlan {plan : ListenerPlan}
    (h : buildListenerPlan pem snapshot runtime = .ok plan) : WellFiled plan.binds := by
  rw [buildListenerPlan] at h
  cases hfold : snapshot.listeners.foldlM (planListener pem snapshot runtime) .empty with
  | error error =>
    rw [hfold] at h
    cases h
  | ok binds =>
    rw [hfold] at h
    obtain rfl := Except.ok.inj h
    exact of_foldlM_ok (fun acc hacc listener _ acc' hplan => hacc.planListener hplan)
      wellFiled_empty hfold

end

end NantianGateway.SharedTls
