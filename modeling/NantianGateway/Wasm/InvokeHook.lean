import NantianGateway.Ai.WasmHooks
import NantianGateway.Wasm.PluginManager

/-!
# Invoking a hook

`invoke_hook` of `ntgw-wasm`.  A guest runs in a store that interrupts it when the epoch of the
engine reaches the store's deadline, a number of increments *from now*.  The source gives it the
manager's counter plus the ticks of the plugin, so **the deadline is as far ahead as the process is
old** (`interrupted_in_time_iff`).
-/

namespace NantianGateway.Wasm

open Ai (HookResult)

inductive HookError where
  | pluginNotFound (name : String)
  | pluginExecution (name message : String)
  | pluginTimeout (name : String)
  | invalidHook (message : String)

def WasmHook.exportName : WasmHook → String
  | .onRequest => "on_request"
  | .onResponse => "on_response"
  | .onStreamChunk => "on_stream_chunk"

/-! ## Guests -/

/-- What guest code does if nobody stops it: after how many increments of the epoch it ends, if
ever, and with what result or trap. -/
structure GuestCode (α : Type) where
  increments : Option ℕ
  outcome : Except String α

/-- A trap: an interruption by the store, or one of the guest's own. -/
structure Trap where
  interrupt : Bool
  text : String

/-- Guest code in a store whose deadline is some increments ahead, and the increments it takes. -/
def runUntil {α : Type} (deadline : ℕ) (code : GuestCode α) : Except Trap α × ℕ :=
  match code.increments.filter (· < deadline) with
  | some increments => (code.outcome.mapError (⟨false, ·⟩), increments)
  | none => (.error ⟨true, "wasm trap: interrupt"⟩, deadline)

/-- A module: its instantiation, the functions it exports for the hooks, which return a code, and
the response headers they set. -/
structure Guest where
  start : GuestCode Unit
  exports : WasmHook → Option (GuestCode ℤ)
  responseHeaders : BTreeMap String := .empty

/-! ## The invocation -/

variable {Json : Type} (plugin : LoadedPlugin Json)

/-- The limit of a plugin in ticks of five milliseconds. -/
def LoadedPlugin.maxTicks : ℕ :=
  plugin.contents.sandbox.maxExecutionMs / 5

/-- What is passed to `set_epoch_deadline`: the counter and the ticks, added as machine words. -/
def LoadedPlugin.epochDeadline (epoch : ℕ) : ℕ :=
  (epoch % 2 ^ 64 + plugin.maxTicks) % 2 ^ 64

def invokeHook (manager : PluginManager Json) (epoch : ℕ) (name : String) (hook : WasmHook)
    (guest : Guest) : Except HookError HookResult × ℕ :=
  match manager.plugins.get name with
  | none => (.error (.pluginNotFound name), 0)
  | some plugin =>
    if hook ∉ plugin.contents.hooks then (.ok (.continue .empty), 0)
    else
      let started := runUntil (plugin.epochDeadline epoch) guest.start
      match started.1 with
      | .error trap =>
        (.error (.pluginExecution name ("instantiation error: " ++ trap.text)), started.2)
      | .ok () =>
        match guest.exports hook with
        | none =>
          (.error (.invalidHook ("plugin '" ++ name ++ "' missing export '" ++
            hook.exportName ++ "'")), started.2)
        | some code =>
          let called := runUntil (plugin.epochDeadline epoch - started.2) code
          (match called.1 with
            | .ok code =>
              .ok (if code = 0 then .continue guest.responseHeaders else .reject code)
            | .error trap =>
              .error (if trap.interrupt then .pluginTimeout name
                else .pluginExecution name trap.text),
            started.2 + called.2)

theorem runUntil_le {α : Type} (deadline : ℕ) (code : GuestCode α) :
    (runUntil deadline code).2 ≤ deadline := by
  rw [runUntil]
  split
  · next increments hincrements =>
    exact (of_decide_eq_true (Option.filter_eq_some_iff.mp hincrements).2).le
  · exact le_rfl

variable {manager : PluginManager Json} {name : String} {hook : WasmHook}
  {plugin : LoadedPlugin Json}

theorem invokeHook_le (hplugin : manager.plugins.get name = some plugin) (epoch : ℕ)
    (guest : Guest) : (invokeHook manager epoch name hook guest).2 ≤
        plugin.epochDeadline epoch := by
  have hst := runUntil_le (plugin.epochDeadline epoch) guest.start
  simp only [invokeHook, hplugin]
  split
  · exact Nat.zero_le _
  · split
    · exact hst
    · split
      · exact hst
      · next code _ =>
        have hcall := runUntil_le (plugin.epochDeadline epoch
          - (runUntil (plugin.epochDeadline epoch) guest.start).2) code
        simp only
        omega

/-- **Guests are interrupted within their limit and one tick exactly in the first two ticks of the
process**, or when adding the limit to the counter wraps. -/
theorem interrupted_in_time_iff (hplugin : manager.plugins.get name = some plugin)
    (hhook : hook ∈ plugin.contents.hooks) (epoch : ℕ) :
    (∀ guest, (invokeHook manager epoch name hook guest).2 ≤ plugin.maxTicks + 1) ↔
      epoch % 2 ^ 64 ≤ 1 ∨ 2 ^ 64 ≤ epoch % 2 ^ 64 + plugin.maxTicks := by
  have hdead : plugin.epochDeadline epoch ≤ plugin.maxTicks + 1 ↔
      epoch % 2 ^ 64 ≤ 1 ∨ 2 ^ 64 ≤ epoch % 2 ^ 64 + plugin.maxTicks := by
    rw [LoadedPlugin.epochDeadline]
    omega
  rw [← hdead]
  refine ⟨fun h => ?_, fun h guest => (invokeHook_le hplugin epoch guest).trans h⟩
  -- a guest that never gets through its instantiation
  have hloop := h ⟨⟨none, .ok ()⟩, fun _ => none, .empty⟩
  simpa [invokeHook, hplugin, hhook, runUntil] using hloop

private def onePlugin : PluginManager Unit :=
  { plugins := BTreeMap.empty.insert "guard" ⟨⟨[], (), [.onRequest], {}⟩, none⟩ }

private def loopingGuest : Guest :=
  { start := ⟨some 0, .ok ()⟩, exports := fun _ => some ⟨none, .ok 0⟩ }

/-- **After an hour a guest with a limit of ten milliseconds runs for another hour.** -/
theorem interrupted_an_hour_late :
    (invokeHook onePlugin 720000 "guard" .onRequest loopingGuest).2 = 720002 := by
  decide +kernel

theorem interrupted_in_time_at_start :
    (invokeHook onePlugin 1 "guard" .onRequest loopingGuest).2 ≤ 3 :=
  (@interrupted_in_time_iff _ onePlugin "guard" .onRequest ⟨⟨[], (), [.onRequest], {}⟩, none⟩ rfl
    (by decide) 1).mpr (.inl (by decide)) loopingGuest

end NantianGateway.Wasm
