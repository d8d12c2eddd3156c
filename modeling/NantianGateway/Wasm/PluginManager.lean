import NantianGateway.Lib.Table

/-!
# The plugin manager

`PluginManager` of `ntgw-wasm`: `diff_and_apply` brings the loaded plugins, shared by all proxies,
in line with a list of desired ones.

* A plugin whose digest is the one it is loaded with **is not looked at again**.
* Compiled modules are taken from disk, by the digest that was given.
* A plugin that cannot be loaded keeps its previous version.
-/

namespace NantianGateway.Wasm

inductive WasmHook where
  | onRequest
  | onResponse
  | onStreamChunk
  deriving DecidableEq

structure WasmSandboxConfig where
  maxMemoryBytes : ℕ := 16 * 1024 * 1024
  maxExecutionMs : ℕ := 10
  allowNetwork : Bool := false
  allowFileSystem : Bool := false
  deriving DecidableEq

structure PluginContents (Json : Type) where
  wasmBytes : List UInt8
  config : Json
  hooks : List WasmHook
  sandbox : WasmSandboxConfig
  deriving DecidableEq

structure WasmPluginSpec (Json : Type) where
  name : String
  contents : PluginContents Json
  sha256 : Option String

structure LoadedPlugin (Json : Type) where
  contents : PluginContents Json
  sha256 : Option String

/-- The loaded plugins, and the bytes of the modules that are kept on disk by digest. -/
structure PluginManager (Json : Type) where
  plugins : BTreeMap (LoadedPlugin Json) := .empty
  cache : Table String (List UInt8) := .empty
  loadCount : ℕ := 0

structure LoadFailed where
  name : String
  reason : String

/-- The engine: whether bytes are compiled, and whether a module can be linked. -/
structure Engine where
  fromBinary : List UInt8 → Except String Unit
  instantiatePre : List UInt8 → Except String Unit

/-- What the disk does for one plugin: whether the file of its digest can be read and understood,
and whether it can be written. -/
structure Disk where
  readable : Bool := true
  writable : Bool := true

structure SyncCounts where
  loaded : ℕ := 0
  updated : ℕ := 0
  skipped : ℕ := 0
  unloaded : ℕ := 0
  deriving DecidableEq

def maxWasmModuleBytes : ℕ := 32 * 1024 * 1024

section

variable {Json : Type} (engine : Engine) (manager : PluginManager Json)

def unloadPlugin (name : String) : PluginManager Json :=
  { manager with plugins := manager.plugins.erase name }

def loadModule (disk : Disk) (cache : Table String (List UInt8)) (spec : WasmPluginSpec Json) :
    Except LoadFailed (List UInt8) × Table String (List UInt8) :=
  match spec.sha256.bind fun sha => if disk.readable then cache sha else none with
  | some cached => (.ok cached, cache)
  | none =>
    match engine.fromBinary spec.contents.wasmBytes with
    | .error error => (.error ⟨spec.name, "compilation error: " ++ error⟩, cache)
    | .ok () =>
      (.ok spec.contents.wasmBytes,
        match spec.sha256 with
        | some sha => if disk.writable then cache.insert sha spec.contents.wasmBytes else cache
        | none => cache)

def unchanged (spec : WasmPluginSpec Json) : Bool :=
  spec.sha256.any fun sha =>
    (manager.plugins.get spec.name).any fun existing => existing.sha256 == some sha

def loadOrUpdate (disk : Disk) (manager : PluginManager Json) (spec : WasmPluginSpec Json) :
    Except LoadFailed Bool × PluginManager Json :=
  if spec.contents.wasmBytes.length > maxWasmModuleBytes then
    (.error ⟨spec.name, "module size " ++ toString spec.contents.wasmBytes.length ++
      " exceeds limit " ++ toString maxWasmModuleBytes⟩, manager)
  else if unchanged manager spec then (.ok false, manager)
  else
    match loadModule engine disk manager.cache spec with
    | (.error failed, cache) => (.error failed, { manager with cache })
    | (.ok compiled, cache) =>
      match engine.instantiatePre compiled with
      | .error error =>
        (.error ⟨spec.name, "instantiate_pre error: " ++ error⟩, { manager with cache })
      | .ok () =>
        (.ok true,
          { plugins := manager.plugins.insert spec.name
              ⟨{ spec.contents with wasmBytes := compiled }, spec.sha256⟩
            cache
            loadCount := manager.loadCount + 1 })

/-- One desired plugin, with its position in the list.  Whether it was there before is asked after
it has been loaded. -/
def syncStep (disks : ℕ → Disk) (acc : SyncCounts × PluginManager Json)
    (spec : WasmPluginSpec Json × ℕ) : SyncCounts × PluginManager Json :=
  match loadOrUpdate engine (disks spec.2) acc.2 spec.1 with
  | (.ok true, manager) =>
    if (manager.plugins.get spec.1.name).isSome && !manager.plugins.entries.isEmpty then
      ({ acc.1 with updated := acc.1.updated + 1 }, manager)
    else ({ acc.1 with loaded := acc.1.loaded + 1 }, manager)
  | (.ok false, manager) => ({ acc.1 with skipped := acc.1.skipped + 1 }, manager)
  | (.error _, manager) => (acc.1, manager)

def diffAndApply (disks : ℕ → Disk) (manager : PluginManager Json)
    (desired : List (WasmPluginSpec Json)) : SyncCounts × PluginManager Json :=
  let toRemove := (manager.plugins.entries.map Prod.fst).filter fun name =>
    name ∉ desired.map WasmPluginSpec.name
  desired.zipIdx.foldl (syncStep engine disks)
    ({ unloaded := toRemove.length }, toRemove.foldl unloadPlugin manager)

end

end NantianGateway.Wasm
