import NantianGateway.SharedTls.ListenerPlan

/-!
# The plan of the HTTP listeners

Two listeners may have an address in common; the first one gives its name to it.  An address that
none of the runtime's own servers has is *probed* before it is planned: it is bound and released
again.  **An address whose probe fails is left out of the plan**, and that is all that happens.
-/

namespace NantianGateway.HttpRuntime

open Text BTreeMap
open SharedTls (TlsListener PlanSnapshot bindAddrs listenerConfiguredAddresses)

/-! ## What the plan reads -/

structure ExperimentalOptions where
  enableExperimentalGateway : Bool := false
  enableAiGateway : Bool := false
  deriving DecidableEq

structure RuntimeOptions where
  defaultListenAddr : String := ""
  enableIpv6 : Bool := false
  experimental : ExperimentalOptions := {}
  deriving DecidableEq

/-- The error of a system call, as far as it is looked at. -/
structure IoError where
  rawOsError : Option ℤ := none
  addrInUse : Bool := false

/-- What the stream runtime has reported last, for `RuntimeStatsSnapshot`. -/
structure StreamReports where
  lastReloadAttemptVersion : String := ""
  lastGoodReloadVersion : String := ""

/-! ## The plan -/

/-- The protocol of a server; `M` is what it needs to end TLS. -/
inductive ListenerProtocol (M : Type) where
  | plain
  | tls (material : M)
  deriving DecidableEq

def ListenerProtocol.isTls {M : Type} : ListenerProtocol M → Bool
  | plain => false
  | tls _ => true

structure PlannedListener (M : Type) where
  name : String
  bind : String
  protocol : ListenerProtocol M
  deriving DecidableEq

structure ListenerPlan (M : Type) where
  listeners : List (PlannedListener M)
  deriving DecidableEq

structure ListenerPlanBuildResult (M : Type) where
  plan : Option (ListenerPlan M) := none
  retryStart : Bool := false
  deferredBinds : List String := []

/-! ## Addresses -/

def bindVariants (bind : String) (enableIpv6 : Bool) : List String :=
  if !enableIpv6 then [bind]
  else
    match stripFront "0.0.0.0:" bind with
    | some port => [bind, "[::]:" ++ port]
    | none => [bind]

def defaultBindHost (bind : String) : Option String :=
  if bind = "" then none
  else
    match stripFront "[" bind with
    | some bind => (splitOnceText "]:" bind).map Prod.fst
    | none => (rsplitOnce ':' bind).map Prod.fst

def isWildcardHost (host : String) : Bool := host ∈ ["0.0.0.0", "::", "[::]"]

def listenerBindHost (listenerHost defaultHost : String) : String :=
  if listenerHost = "" || isWildcardHost listenerHost then defaultHost else listenerHost

def listenerBindHosts (listener : TlsListener) (runtime : RuntimeOptions) : List String :=
  (listenerConfiguredAddresses listener).map fun host =>
    match defaultBindHost runtime.defaultListenAddr with
    | some defaultHost => listenerBindHost host defaultHost
    | none => if host = "" then "0.0.0.0" else host

/-- The addresses of a listener, each once, in the order of their texts. -/
def listenerBindAddrs (listener : TlsListener) (runtime : RuntimeOptions) : List String :=
  (((listenerBindHosts listener runtime).flatMap fun host =>
    bindAddrs host listener.port runtime.enableIpv6).eraseDups).mergeSort fun a b => decide (a ≤ b)

/-! ## Protocols -/

variable (protocol : String)

def isPlainHttpProtocol : Bool :=
  protocol ∈ ["LISTENER_PROTOCOL_HTTP", "LISTENER_PROTOCOL_GRPC", "HTTP", "GRPC"]

def isHttpsProtocol : Bool := protocol ∈ ["LISTENER_PROTOCOL_HTTPS", "HTTPS"]

def isHttp3Protocol : Bool := protocol ∈ ["LISTENER_PROTOCOL_HTTP3", "HTTP3"]

def isL7Protocol : Bool :=
  isPlainHttpProtocol protocol || isHttpsProtocol protocol || isHttp3Protocol protocol

/-- An IPv6 address on a machine without that address family. -/
def shouldSuppressUnavailableBindWarning (bind : String) (err : IoError) : Bool :=
  startsWith bind "[" && err.rawOsError == some 97

/-! ## Building the plan -/

/-- What a plan is made from: the snapshot and the options, the addresses of the runtime's own
servers, and what the probes find. -/
structure PlanContext where
  snapshot : PlanSnapshot
  runtime : RuntimeOptions := {}
  activeBinds : List String := []
  bindChecker : ℕ → String → Option IoError := fun _ _ => none
  runtimeState : StreamReports := {}

structure Planning (M : Type) where
  endpoints : BTreeMap (PlannedListener M) := .empty
  retryStart : Bool := false
  deferredBinds : List String := []

section

variable {M : Type} (material : PlanSnapshot → TlsListener → Option M) (ctx : PlanContext)

/-- `material` resolves the certificates of a listener; it has none without an identity. -/
def desiredListenerProtocol (listener : TlsListener) : Option (ListenerProtocol M) :=
  if isPlainHttpProtocol listener.protocol then some .plain
  else if !isHttpsProtocol listener.protocol then none
  else if !(listener.tls.any fun tls => tls.enabled && !tls.passthrough) then none
  else (material ctx.snapshot listener).map .tls

def tlsPassthroughBinds : List String :=
  (ctx.snapshot.listeners.filter fun listener =>
    listener.tls.any fun tls => tls.enabled && tls.passthrough).flatMap fun listener =>
      listenerBindAddrs listener ctx.runtime

/-- The failure of a probe; an address that a server of the runtime has is not probed. -/
def checkBind (position : ℕ) (bind : String) : Option IoError :=
  if bind ∈ ctx.activeBinds then none else ctx.bindChecker position bind

def shouldDeferHttpListenerBindHandoff (protocol : ListenerProtocol M) (bind : String)
    (err : IoError) : Bool :=
  if !protocol.isTls then false
  else if !err.addrInUse then false
  else if ctx.snapshot.id = "" || bind ∈ tlsPassthroughBinds ctx then false
  else
    let hasPriorStreamState := ctx.runtimeState.lastReloadAttemptVersion ≠ "" ||
      ctx.runtimeState.lastGoodReloadVersion ≠ ""
    hasPriorStreamState && ctx.runtimeState.lastGoodReloadVersion ≠ ctx.snapshot.id

def planBind (listener : TlsListener) (position : ℕ) (protocol : ListenerProtocol M)
    (acc : Planning M) (bind : String) : Planning M :=
  match checkBind ctx position bind with
  | some err =>
    if shouldDeferHttpListenerBindHandoff ctx protocol bind err then
      { acc with
        retryStart := true
        deferredBinds :=
          if bind ∈ acc.deferredBinds then acc.deferredBinds else acc.deferredBinds ++ [bind] }
    else acc
  | none =>
    if protocol.isTls && decide (bind ∈ tlsPassthroughBinds ctx) then acc
    else
      match acc.endpoints.get bind with
      | some _ => acc
      | none =>
        { acc with endpoints := acc.endpoints.insert bind ⟨listener.name, bind, protocol⟩ }

def planListener (includeTlsTerminatingListeners : Bool) (acc : Planning M)
    (listener : TlsListener × ℕ) : Planning M :=
  match desiredListenerProtocol material ctx listener.1 with
  | none => acc
  | some protocol =>
    if protocol.isTls && !includeTlsTerminatingListeners then acc
    else
      (listenerBindAddrs listener.1 ctx.runtime).foldl
        (planBind ctx listener.1 listener.2 protocol) acc

def planDefault (endpoints : BTreeMap (PlannedListener M)) (bind : String) :
    BTreeMap (PlannedListener M) :=
  match checkBind ctx ctx.snapshot.listeners.length bind with
  | some _ => endpoints
  | none => endpoints.insert bind ⟨"runtime/default-http", bind, .plain⟩

def hasDeclaredL7 : Bool :=
  ctx.snapshot.listeners.any fun listener => isL7Protocol listener.protocol

def buildListenerPlanWithBindCheckerInner (includeTlsTerminatingListeners : Bool) :
    ListenerPlanBuildResult M :=
  let planned := ctx.snapshot.listeners.zipIdx.foldl
    (planListener material ctx includeTlsTerminatingListeners) {}
  let endpoints :=
    if planned.endpoints.entries.isEmpty && !hasDeclaredL7 ctx &&
        ctx.runtime.defaultListenAddr ≠ "" then
      (bindVariants ctx.runtime.defaultListenAddr ctx.runtime.enableIpv6).foldl (planDefault ctx)
        planned.endpoints
    else planned.endpoints
  { plan := if endpoints.entries.isEmpty then none else some ⟨endpoints.values⟩
    retryStart := planned.retryStart
    deferredBinds := planned.deferredBinds }

def buildListenerPlanForRuntime : ListenerPlanBuildResult M :=
  buildListenerPlanWithBindCheckerInner material ctx false

end

/-! ## What is in a plan of the runtime -/

section

variable {M : Type} {material : PlanSnapshot → TlsListener → Option M} {ctx : PlanContext}

/-- The plan so far is one of plain listeners, each under its address, and nothing is put off. -/
structure Planning.Plain (acc : Planning M) : Prop where
  filed : ∀ bind planned, acc.endpoints.get bind = some planned →
    planned.bind = bind ∧ planned.protocol = .plain
  retryStart : acc.retryStart = false

theorem planBind_plain {listener : TlsListener} {position : ℕ} {acc : Planning M} (h : acc.Plain)
    (bind : String) :
    (planBind ctx listener position .plain acc bind).Plain ∧
      ∀ key, ((planBind ctx listener position .plain acc bind).endpoints.get key).isSome = true ↔
        (acc.endpoints.get key).isSome = true ∨
          (key = bind ∧ checkBind ctx position bind = none) := by
  rw [planBind]
  cases hcheck : checkBind ctx position bind with
  | some err =>
    have hdefer : shouldDeferHttpListenerBindHandoff (M := M) ctx .plain bind err = false := rfl
    simp only [hdefer, Bool.false_eq_true, if_false]
    exact ⟨h, fun key => by simp⟩
  | none =>
    simp only [ListenerProtocol.isTls, Bool.false_and, Bool.false_eq_true, if_false, and_true]
    cases hget : acc.endpoints.get bind with
    | some planned =>
      refine ⟨h, fun key => ⟨.inl, ?_⟩⟩
      rintro (hkey | rfl)
      · exact hkey
      · rw [hget]
        rfl
    | none =>
      refine ⟨⟨fun key planned hkey => ?_, h.retryStart⟩, fun key => ?_⟩
      · rw [get_insert] at hkey
        split at hkey
        · next heq =>
          obtain rfl := Option.some.inj hkey
          exact ⟨heq.symm, rfl⟩
        · exact h.filed key planned hkey
      · rw [get_insert]
        by_cases heq : key = bind <;> simp [heq]

theorem foldl_planBind {listener : TlsListener} {position : ℕ} (binds : List String)
    {acc : Planning M} (h : acc.Plain) :
    (binds.foldl (planBind ctx listener position .plain) acc).Plain ∧
      ∀ key, ((binds.foldl (planBind ctx listener position .plain) acc).endpoints.get key).isSome
          = true ↔
        (acc.endpoints.get key).isSome = true ∨
          (key ∈ binds ∧ checkBind ctx position key = none) := by
  induction binds generalizing acc with
  | nil => exact ⟨h, fun key => by simp⟩
  | cons bind binds ih =>
    obtain ⟨hplain, hkeys⟩ := @planBind_plain M ctx listener position acc h bind
    obtain ⟨hplain', hkeys'⟩ := ih hplain
    rw [List.foldl_cons]
    refine ⟨hplain', fun key => ?_⟩
    rw [hkeys', hkeys, List.mem_cons, or_and_right, or_assoc]
    refine or_congr_right (or_congr_left ?_)
    constructor
    · rintro ⟨rfl, hcheck⟩
      exact ⟨rfl, hcheck⟩
    · rintro ⟨rfl, hcheck⟩
      exact ⟨rfl, hcheck⟩

theorem planListener_runtime (acc : Planning M) (listener : TlsListener × ℕ) :
    planListener material ctx false acc listener = if isPlainHttpProtocol listener.1.protocol then
          (listenerBindAddrs listener.1 ctx.runtime).foldl
            (planBind ctx listener.1 listener.2 .plain) acc
        else acc := by
  rw [planListener, desiredListenerProtocol]
  split
  · next hprotocol =>
    split at hprotocol
    · cases hprotocol
    · next hplain => rw [if_neg hplain]
  · next protocol hprotocol =>
    split at hprotocol
    · next hplain =>
      obtain rfl := Option.some.inj hprotocol
      rw [if_pos hplain]
      rfl
    · next hplain =>
      rw [if_neg hplain]
      -- the listener ends TLS
      split at hprotocol
      · cases hprotocol
      · split at hprotocol
        · cases hprotocol
        · obtain ⟨resolved, -, rfl⟩ := Option.map_eq_some_iff.mp hprotocol
          rfl

/-- An address that a plain listener has, and that was not left out for this listener. -/
def Accepted (ctx : PlanContext) (bind : String) : Prop :=
  ∃ listener position, (listener, position) ∈ ctx.snapshot.listeners.zipIdx ∧
    isPlainHttpProtocol listener.protocol = true ∧ bind ∈ listenerBindAddrs listener ctx.runtime ∧
    checkBind ctx position bind = none

theorem foldl_planListener (listeners : List (TlsListener × ℕ)) {acc : Planning M}
    (h : acc.Plain) :
    (listeners.foldl (planListener material ctx false) acc).Plain ∧
      ∀ key, ((listeners.foldl (planListener material ctx false) acc).endpoints.get key).isSome
          = true ↔
        (acc.endpoints.get key).isSome = true ∨ ∃ listener ∈ listeners,
          isPlainHttpProtocol listener.1.protocol = true ∧
            key ∈ listenerBindAddrs listener.1 ctx.runtime ∧
            checkBind ctx listener.2 key = none := by
  induction listeners generalizing acc with
  | nil => exact ⟨h, fun key => by simp⟩
  | cons listener listeners ih =>
    rw [List.foldl_cons, planListener_runtime]
    cases hplain : isPlainHttpProtocol listener.1.protocol with
    | false =>
      rw [if_neg Bool.false_ne_true]
      obtain ⟨hall, hkeys⟩ := ih h
      refine ⟨hall, fun key => ?_⟩
      rw [hkeys, List.exists_mem_cons_iff, hplain]
      simp
    | true =>
      rw [if_pos rfl]
      obtain ⟨hfirst, hkeys⟩ := @foldl_planBind M ctx listener.1 listener.2
        (listenerBindAddrs listener.1 ctx.runtime) acc h
      obtain ⟨hall, hkeys'⟩ := ih hfirst
      refine ⟨hall, fun key => ?_⟩
      rw [hkeys', hkeys, List.exists_mem_cons_iff, hplain, or_assoc]
      simp

theorem plain_empty : ({} : Planning M).Plain where
  filed := fun _ planned h => nomatch (h : none = some planned)
  retryStart := rfl

theorem filed_foldl_planDefault (binds : List String) {endpoints : BTreeMap (PlannedListener M)}
    (h : ∀ bind planned, endpoints.get bind = some planned →
      planned.bind = bind ∧ planned.protocol = .plain) :
    ∀ bind planned, (binds.foldl (planDefault ctx) endpoints).get bind = some planned →
      planned.bind = bind ∧ planned.protocol = .plain := by
  induction binds generalizing endpoints with
  | nil => exact h
  | cons first binds ih =>
    rw [List.foldl_cons]
    refine ih fun bind planned hget => ?_
    rw [planDefault] at hget
    split at hget
    · exact h bind planned hget
    · rw [get_insert] at hget
      split at hget
      · next heq =>
        obtain rfl := Option.some.inj hget
        exact ⟨heq.symm, rfl⟩
      · exact h bind planned hget

def ListenerPlanBuildResult.listeners (result : ListenerPlanBuildResult M) :
    List (PlannedListener M) :=
  (result.plan.map ListenerPlan.listeners).getD []

theorem getD_listeners (endpoints : BTreeMap (PlannedListener M)) :
    ((if endpoints.entries.isEmpty then none else some (⟨endpoints.values⟩ : ListenerPlan M)).map
      ListenerPlan.listeners).getD [] = endpoints.values := by
  split
  · next hnone =>
    rw [List.isEmpty_iff] at hnone
    simp [BTreeMap.values, hnone]
  · rfl

theorem runtime_plan (material : PlanSnapshot → TlsListener → Option M) (ctx : PlanContext) :
    (∀ planned ∈ (buildListenerPlanForRuntime material ctx).listeners, planned.protocol = .plain) ∧
      (buildListenerPlanForRuntime material ctx).retryStart = false := by
  obtain ⟨hplain, -⟩ :=
      @foldl_planListener M material ctx ctx.snapshot.listeners.zipIdx {} plain_empty
  refine ⟨fun planned hmem => ?_, hplain.retryStart⟩
  rw [ListenerPlanBuildResult.listeners, buildListenerPlanForRuntime,
    buildListenerPlanWithBindCheckerInner] at hmem
  generalize ctx.snapshot.listeners.zipIdx.foldl (planListener material ctx false) {} = acc
    at hplain hmem
  simp only [getD_listeners] at hmem
  obtain ⟨bind, hget⟩ := mem_values_iff.mp hmem
  -- the addresses come from the listeners, or they are the default ones
  split at hget
  · exact (filed_foldl_planDefault _ hplain.filed bind planned hget).2
  · exact (hplain.filed bind planned hget).2

theorem planned_iff (hdeclared : hasDeclaredL7 ctx = true) (bind : String) :
    (∃ planned ∈ (buildListenerPlanForRuntime material ctx).listeners, planned.bind = bind) ↔
      Accepted ctx bind := by
  obtain ⟨hplain, hkeys⟩ := @foldl_planListener M material ctx ctx.snapshot.listeners.zipIdx {}
    plain_empty
  have haccepted : Accepted ctx bind ↔ ((ctx.snapshot.listeners.zipIdx.foldl
      (planListener material ctx false) {}).endpoints.get bind).isSome = true := by
    rw [hkeys, Accepted]
    constructor
    · rintro ⟨listener, position, hmem, hrest⟩
      exact .inr ⟨(listener, position), hmem, hrest⟩
    · rintro (hnil | ⟨⟨listener, position⟩, hmem, hrest⟩)
      · cases hnil
      · exact ⟨listener, position, hmem, hrest⟩
  rw [haccepted, ListenerPlanBuildResult.listeners, buildListenerPlanForRuntime,
    buildListenerPlanWithBindCheckerInner, hdeclared]
  generalize ctx.snapshot.listeners.zipIdx.foldl (planListener material ctx false) {} = acc
    at hplain
  simp only [Bool.not_true, Bool.and_false, Bool.false_and, Bool.false_eq_true, if_false,
    getD_listeners]
  constructor
  · rintro ⟨planned, hmem, rfl⟩
    obtain ⟨key, hget⟩ := mem_values_iff.mp hmem
    rw [(hplain.filed key planned hget).1, hget]
    rfl
  · intro hsome
    obtain ⟨planned, hget⟩ := Option.isSome_iff_exists.mp hsome
    exact ⟨planned, mem_values_of_get hget, (hplain.filed bind planned hget).1⟩

end

end NantianGateway.HttpRuntime
