import NantianGateway.Ai.Filter

/-!
# The hooks of the plugins

`wasm_filter.rs`: a filter invokes its plugins one after another.  The first one that rejects the
exchange or fails ends the walk, and **the plugins after it are not asked**.  Nor is any plugin
asked if the filter is at its limit of concurrent runs.
-/

namespace NantianGateway.Ai

inductive HookResult where
  | «continue» (responseHeaders : BTreeMap String)
  | reject (code : ℤ)

inductive WasmError where
  | pluginRejected (name : String) (code : ℤ)
  | pluginExecution (name message : String)
  deriving DecidableEq

def extendHeaders (headers more : BTreeMap String) : BTreeMap String :=
  more.entries.foldl (fun headers field => headers.insert field.1 field.2) headers

abbrev Invoke := String → Except String HookResult

/-- The walk along the plugins, with the fields collected so far; the names are those that were
invoked. -/
def invokePlugins (invoke : Invoke) :
    List String → BTreeMap String → Except WasmError (BTreeMap String) × List String
  | [], headers => (.ok headers, [])
  | name :: names, headers =>
    match invoke name with
    | .error message => (.error (.pluginExecution name message), [name])
    | .ok (.reject code) => (.error (.pluginRejected name code), [name])
    | .ok (.continue responseHeaders) =>
      let out := invokePlugins invoke names (extendHeaders headers responseHeaders)
      (out.1, name :: out.2)

variable (invoke : Invoke) (permit : Bool) (names : List String)

def runHook : Except WasmError (BTreeMap String) × List String :=
  if names.isEmpty then (.ok .empty, [])
  else if !permit then
    (.error (.pluginExecution "wasm_filter" "concurrency limit reached"), [])
  else invokePlugins invoke names .empty

variable (filter : WasmPluginFilter)

def WasmPluginFilter.preProcess (invoke : Invoke) (permit : Bool) :
    Except WasmError (BTreeMap String) × List String :=
  runHook invoke permit filter.onRequestPluginNames

def WasmPluginFilter.postProcess (invoke : Invoke) (permit : Bool) :
    Except WasmError (BTreeMap String) × List String :=
  runHook invoke permit filter.onResponsePluginNames

def Continues (name : String) : Prop :=
  ∃ headers, invoke name = .ok (.continue headers)

theorem invoked_eq_iff (headers : BTreeMap String) :
    (invokePlugins invoke names headers).2 = names ↔
      ∀ name ∈ names.dropLast, Continues invoke name := by
  induction names generalizing headers with
  | nil => simp [invokePlugins]
  | cons name names ih =>
    rw [invokePlugins]
    cases names with
    | nil =>
      -- a single plugin is asked, whatever it says
      rcases invoke name with message | (responseHeaders | code) <;> simp [invokePlugins]
    | cons next names =>
      rw [List.dropLast_cons_cons, List.forall_mem_cons]
      cases hinvoke : invoke name with
      | error message => simp [Continues, hinvoke]
      | ok result =>
        cases result with
        | reject code => simp [Continues, hinvoke]
        | «continue» responseHeaders =>
          have hcontinues : Continues invoke name := ⟨responseHeaders, hinvoke⟩
          simp only [hcontinues, true_and, ← ih (extendHeaders headers responseHeaders),
            List.cons.injEq]

theorem runHook_snd_eq_iff : (runHook invoke permit names).2 = names ↔
      names = [] ∨ (permit = true ∧ ∀ name ∈ names.dropLast, Continues invoke name) := by
  rw [runHook]
  cases names with
  | nil => simp
  | cons name names =>
    cases permit with
    | false => simp
    | true =>
      rw [List.isEmpty_cons, if_neg Bool.false_ne_true, Bool.not_true, if_neg Bool.false_ne_true,
        invoked_eq_iff]
      simp

theorem rejected_of_reject {invoke : Invoke} {names : List String} {headers : BTreeMap String}
    {name : String} (hname : name ∈ (invokePlugins invoke names headers).2) {code : ℤ}
    (hreject : invoke name = .ok (.reject code)) :
    ∃ by' code', (invokePlugins invoke names headers).1 = .error (.pluginRejected by' code') := by
  induction names generalizing headers with
  | nil => exact absurd hname List.not_mem_nil
  | cons first names ih =>
    rw [invokePlugins] at hname ⊢
    cases hinvoke : invoke first with
    | error message =>
      rw [hinvoke] at hname
      rw [List.mem_singleton.mp hname, hinvoke] at hreject
      cases hreject
    | ok result =>
      rw [hinvoke] at hname
      cases result with
      | reject code' => exact ⟨first, code', rfl⟩
      | «continue» responseHeaders =>
        rcases List.mem_cons.mp hname with rfl | hname
        · rw [hinvoke] at hreject
          cases hreject
        · exact ih hname

theorem runHook_of_reject {invoke : Invoke} {permit : Bool} {names : List String} {name : String}
    (hname : name ∈ (runHook invoke permit names).2) {code : ℤ}
    (hreject : invoke name = .ok (.reject code)) :
    ∃ by' code', (runHook invoke permit names).1 = .error (.pluginRejected by' code') := by
  rw [runHook] at hname ⊢
  split at hname
  · exact absurd hname List.not_mem_nil
  · rw [if_neg ‹_›]
    split at hname
    · exact absurd hname List.not_mem_nil
    · rw [if_neg ‹_›]
      exact rejected_of_reject hname hreject

end NantianGateway.Ai
