import NantianGateway.Ai.Filter
import NantianGateway.HttpRuntime.ListenerPlan
import NantianGateway.Wasm.PluginManager

/-!
# The filters of a proxy

`build_gateway_proxy` gives a proxy its plugins and token limits when its server starts.  A filter
for plugins holds only names, and the limiter is made from **the first token policy of the
snapshot**.  Making an AI filter registers its metrics, so only the first of the process is made.
-/

namespace NantianGateway.HttpRuntime

open Ai (AIGatewayFilter AdapterRegistry BurstFactor RateLimitConfig TokenRateLimiter
  WasmPluginFilter)
open Wasm (Disk Engine PluginContents PluginManager WasmHook WasmPluginSpec)

/-! ## What the filters read -/

structure SandboxLimits where
  maxMemoryBytes : ℕ := 0
  maxExecutionTimeMs : ℕ := 0
  allowNetwork : Bool := false
  allowFileSystem : Bool := false

structure WasmPluginConfig where
  name : String
  wasmBytes : List UInt8
  sha256 : String := ""
  hooks : List String
  configJson : String := ""
  sandbox : SandboxLimits := {}

structure TokenPolicyConfig where
  tokensPerMinute : ℕ := 0
  tokensPerHour : ℕ := 0
  requestsPerMinute : ℕ := 0
  scope : String := ""
  burst : BurstFactor := BurstFactor.one
  onLimit : String := ""

/-- A backend with what the filters read of it. -/
structure PolicyBackend where
  name : String
  wasmPlugin : Option WasmPluginConfig := none
  tokenPolicy : Option TokenPolicyConfig := none

structure PolicySnapshot extends SharedTls.PlanSnapshot where
  backends : List PolicyBackend := []

/-- What is not part of the repository: the reader of JSON texts, the engine, and whether the global
plugin manager could be made. -/
structure Platform (Json : Type) where
  fromStr : String → Option Json
  null : Json
  engine : Engine
  managerAvailable : Bool := true

/-! ## Plugins -/

def hookFromText : String → Option WasmHook
  | "on_request" | "onRequest" => some .onRequest
  | "on_response" | "onResponse" => some .onResponse
  | "on_stream_chunk" | "onStreamChunk" => some .onStreamChunk
  | _ => none

def usizeMax : ℕ := 2 ^ 64 - 1

section

variable {Json : Type} (platform : Platform Json)

/-- The plugin that a backend asks for: one with bytes and with a known hook. -/
def desiredPlugin (backend : PolicyBackend) : Option (WasmPluginSpec Json) :=
  backend.wasmPlugin.bind fun plugin =>
    if plugin.wasmBytes.isEmpty then none
    else
      let hooks := plugin.hooks.filterMap hookFromText
      if hooks.isEmpty then none
      else
        some
          { name := plugin.name
            contents :=
              { wasmBytes := plugin.wasmBytes
                config := (platform.fromStr plugin.configJson).getD platform.null
                hooks
                sandbox :=
                  { maxMemoryBytes :=
                      if plugin.sandbox.maxMemoryBytes > usizeMax then usizeMax
                      else plugin.sandbox.maxMemoryBytes
                    maxExecutionMs := plugin.sandbox.maxExecutionTimeMs
                    allowNetwork := plugin.sandbox.allowNetwork
                    allowFileSystem := plugin.sandbox.allowFileSystem } }
            sha256 := if plugin.sha256 = "" then none else some plugin.sha256 }

def desiredPlugins (snapshot : PolicySnapshot) : List (WasmPluginSpec Json) :=
  snapshot.backends.filterMap (desiredPlugin platform)

def pluginNamesForHook (desired : List (WasmPluginSpec Json)) (hook : WasmHook) : List String :=
  ((desired.filter fun spec => hook ∈ spec.contents.hooks).map WasmPluginSpec.name).eraseDups

/-- The plugins of the manager are brought in line with the snapshot, and a filter names those of
each hook. -/
def buildWasmFilter (disks : ℕ → Disk) (manager : PluginManager Json) (snapshot : PolicySnapshot) :
    Option WasmPluginFilter × PluginManager Json :=
  let desired := desiredPlugins platform snapshot
  if !platform.managerAvailable then (none, manager)
  else if desired.isEmpty then
    (none, (manager.plugins.entries.map Prod.fst).foldl Wasm.unloadPlugin manager)
  else
    let manager := (Wasm.diffAndApply platform.engine disks manager desired).2
    if manager.plugins.entries.isEmpty then (none, manager)
    else
      (some
        { onRequestPluginNames := pluginNamesForHook desired .onRequest
          onResponsePluginNames := pluginNamesForHook desired .onResponse }, manager)

end

/-! ## Token limits -/

def TokenPolicyConfig.rateLimitConfig (policy : TokenPolicyConfig) : RateLimitConfig where
  tokensPerMinute := policy.tokensPerMinute
  tokensPerHour := policy.tokensPerHour
  requestsPerMinute := policy.requestsPerMinute
  scope := policy.scope
  burst := policy.burst
  onLimit := policy.onLimit

def PolicyBackend.limits (backend : PolicyBackend) : Option RateLimitConfig :=
  backend.tokenPolicy.map TokenPolicyConfig.rateLimitConfig

def PolicySnapshot.firstLimits (snapshot : PolicySnapshot) : Option RateLimitConfig :=
  snapshot.backends.findSome? PolicyBackend.limits

variable {Json : Type} (adapters : AdapterRegistry Json)

def buildAiFilter (registered : Bool)
    (snapshot : PolicySnapshot) (wasmFilter : Option WasmPluginFilter) :
    Option (AIGatewayFilter Json) × Bool :=
  if registered then (none, true)
  else
    (some { adapters, rateLimiter := snapshot.firstLimits.map TokenRateLimiter.new, wasmFilter },
      true)

/-! ## The proxy -/

/-- What `build_gateway_proxy` adds to the options of a proxy. -/
structure ProxyFilters (Json : Type) where
  wasmFilter : Option WasmPluginFilter := none
  aiFilter : Option (AIGatewayFilter Json) := none

def proxyWasmFilter (platform : Platform Json) (runtime : RuntimeOptions)
    (disks : ℕ → Disk) (manager : PluginManager Json) (snapshot : PolicySnapshot) :
    Option WasmPluginFilter × PluginManager Json :=
  if runtime.experimental.enableExperimentalGateway then
    buildWasmFilter platform disks manager snapshot
  else (none, manager)

def proxyAiFilter (runtime : RuntimeOptions)
    (registered : Bool) (snapshot : PolicySnapshot) (wasmFilter : Option WasmPluginFilter) :
    Option (AIGatewayFilter Json) × Bool :=
  if runtime.experimental.enableAiGateway then
    buildAiFilter adapters registered snapshot wasmFilter
  else (none, registered)

/-! ## The proxies of a process -/

/-- A call of `build_gateway_proxy`: its options, the disk, and the snapshots that its two reads of
the shared one find. -/
structure BuildCall where
  runtime : RuntimeOptions
  disks : ℕ → Disk := fun _ => {}
  pluginsFrom : PolicySnapshot := {}
  policiesFrom : PolicySnapshot := {}

structure Globals (Json : Type) where
  manager : PluginManager Json := {}
  metricsRegistered : Bool := false

section

variable {Json : Type} (platform : Platform Json) (adapters : AdapterRegistry Json)

def buildGatewayProxy (globals : Globals Json) (call : BuildCall) :
    ProxyFilters Json × Globals Json :=
  let wasm := proxyWasmFilter platform call.runtime call.disks globals.manager call.pluginsFrom
  let ai := proxyAiFilter adapters call.runtime globals.metricsRegistered call.policiesFrom wasm.1
  (⟨wasm.1, ai.1⟩, ⟨wasm.2, ai.2⟩)

def gatewayProxies : Globals Json → List BuildCall → List (ProxyFilters Json)
  | _, [] => []
  | globals, call :: calls =>
    let out := buildGatewayProxy platform adapters globals call
    out.1 :: gatewayProxies out.2 calls

theorem buildGatewayProxy_aiFilter {call : BuildCall}
    (hai : call.runtime.experimental.enableAiGateway = true) (globals : Globals Json) :
    (buildGatewayProxy platform adapters globals call).1.aiFilter.isSome
        = !globals.metricsRegistered ∧
      (buildGatewayProxy platform adapters globals call).2.metricsRegistered = true := by
  cases hregistered : globals.metricsRegistered <;>
    simp [buildGatewayProxy, proxyAiFilter, hai, buildAiFilter, hregistered]

/-- **The AI gateway is enabled in the first proxy of the process only**: all proxies of a history
have an AI filter if and only if there is at most one. -/
theorem ai_filters_iff {calls : List BuildCall}
    (hai : ∀ call ∈ calls, call.runtime.experimental.enableAiGateway = true) :
    (∀ proxy ∈ gatewayProxies platform adapters {} calls, proxy.aiFilter.isSome) ↔
      calls.length ≤ 1 := by
  match calls with
  | [] => simp [gatewayProxies]
  | [call] =>
    simp [gatewayProxies, (buildGatewayProxy_aiFilter platform adapters (hai call (by simp)) {}).1]
  | call :: next :: calls =>
    have hfirst := (buildGatewayProxy_aiFilter platform adapters (hai call (by simp)) {}).2
    have hnext := (buildGatewayProxy_aiFilter platform adapters (hai next (by simp))
      (buildGatewayProxy platform adapters {} call).2).1
    rw [hfirst] at hnext
    simp [gatewayProxies, hnext]

end

private def aiBuild : BuildCall := { runtime := { experimental := { enableAiGateway := true } } }

private def idlePlatform : Platform Unit :=
  ⟨fun _ => none, (), ⟨fun _ => .ok (), fun _ => .ok ()⟩, true⟩

/-- The proxy of a second listener has no AI filter. -/
theorem second_proxy_without_ai_filter :
    (gatewayProxies idlePlatform .empty {} [aiBuild, aiBuild]).map (fun proxy =>
      proxy.aiFilter.isSome) = [true, false] :=
  rfl

theorem ai_filters_single : [aiBuild].length ≤ 1 ∧
    ∀ proxy ∈ gatewayProxies idlePlatform .empty {} [aiBuild], proxy.aiFilter.isSome :=
  ⟨by decide, (ai_filters_iff idlePlatform .empty (by simp [aiBuild])).mpr (by decide)⟩

end NantianGateway.HttpRuntime
