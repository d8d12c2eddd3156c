import NantianGateway.Http.AiPreProcessing
import NantianGateway.Http.AuthorizedResponses

/-!
# Which requests the plugins and the AI gateway see

Both steps stand at the end of `do_request_filter`; the fast path, the gRPC path and the fallback
return before.  Even on an HTTP route the walk along the plugins ends with the first one that does
not let the request go on, and when that was a failure the request goes on all the same.
-/

namespace NantianGateway.Http

open Text Stages

variable {Json C : Type}

/-! ## The steps with the filters in them -/

def wasmOutcome (wasm : Option Ai.WasmPluginFilter) (invoke : Ai.Invoke) (permit : Bool) :
    Option WasmOutcome :=
  wasm.bind fun filter =>
    if filter.onRequestPluginNames.isEmpty then none
    else
      match (filter.preProcess invoke permit).1 with
      | .ok _ => some .accepted
      | .error (.pluginRejected _ code) => some (.rejected code)
      | .error (.pluginExecution _ _) => some .failed

structure AiCall (Json : Type) where
  cr : Ai.AiCrates Json
  env : Ai.PreEnv
  filter : Ai.AIGatewayFilter Json
  maxRequestBodyBytes : ℕ
  request : AiRequest

def Outcomes.withFilters (o : Outcomes) (wasm : Option Ai.WasmPluginFilter) (invoke : Ai.Invoke)
    (permit : Bool) (ai : Option (AiCall Json)) : Outcomes :=
  { o with
    wasm := wasmOutcome wasm invoke permit
    ai := ai.map fun call =>
      aiOutcome call.cr call.env call.filter call.maxRequestBodyBytes call.request }

section

variable (crate : IpNetCrate) (o : Outcomes) (selections : Selections)

/-- The request gets to the wasm step, the last of the HTTP route. -/
def reachesPlugins : Bool :=
  match selections.fastPath, selections.grpc, selections.http with
  | none, none, some route =>
    decide ((runStages (entryStages o ++ (httpRouteStages crate o route).dropLast) {}).1 = .next)
  | _, _, _ => false

def askedPlugins (filter : Ai.WasmPluginFilter) (invoke : Ai.Invoke) (permit : Bool) :
    List String :=
  if reachesPlugins crate o selections then (filter.preProcess invoke permit).2 else []

/-- **Every plugin is asked, and none rejects.** -/
def PluginsRun (wasm : Option Ai.WasmPluginFilter) (invoke : Ai.Invoke) (permit : Bool) : Prop :=
  ∀ filter, wasm = some filter →
    askedPlugins crate o selections filter invoke permit = filter.onRequestPluginNames ∧
      ∀ name ∈ filter.onRequestPluginNames, ∀ code, invoke name ≠ .ok (.reject code)

/-- **A request on a path of the AI gateway goes through the pre-processing.** -/
def AiRuns (ai : Option (AiCall Json)) : Prop :=
  ∀ call, ai = some call → aiGatewayShouldProcessPath call.request.path = true →
    PreProcessed crate o selections

end

def RejectsResponse (proxy : ResponseProxy) (env : ResponseEnv) : Prop :=
  ∃ filter, proxy.wasmFilter = some filter ∧
    ∃ name ∈ (filter.postProcess env.onResponse env.permit).2, ∃ code,
      env.onResponse name = .ok (.reject code)

/-! ## Which requests get there -/

section

variable {crate : IpNetCrate} {o : Outcomes} {selections : Selections}

theorem reachesAi_of_forwarded (h : Forwarded crate o selections) (hhttp : ByHttpRoute selections) :
    ReachesAi crate o selections := by
  obtain ⟨st, hst, horiginal⟩ := h
  obtain ⟨fast, grpc, http, fallback⟩ := selections
  obtain ⟨rfl, rfl, hsome⟩ := hhttp
  obtain ⟨route, rfl⟩ := Option.isSome_iff_exists.mp hsome
  have hended : Contract (· = ({} : FilterState))
      (· = httpRouteEffect o route (resetRequestContext {})) Ended
      (runStages (entryStages o ++ pathStages crate o ⟨none, none, some route, fallback⟩)) := by
    intro s hs
    rw [runStages_append]
    exact ((moves_entryStages.changes {}).andThen ((moves_httpRouteStages route).changes _)) s hs
  have hout := hended {} rfl
  rw [← handsOn_beforeAi_iff _ {}, HandsOn]
  rw [doRequestFilter, Stage.andThen] at hst
  generalize runStages (entryStages o ++ pathStages crate o ⟨none, none, some route, fallback⟩) {}
    = out at *
  obtain ⟨flow, st'⟩ := out
  cases flow with
  | next => rfl
  | done handled =>
    cases hst
    rcases hout with hhandled | hmirror
    · cases hhandled
    · rw [horiginal] at hmirror
      cases hmirror
  | failed => cases hst

theorem reachesPlugins_of_reachesAi (h : ReachesAi crate o selections) :
    reachesPlugins crate o selections = true := by
  have hnext := (@handsOn_beforeAi_iff crate o selections {}).mpr h
  obtain ⟨-, hfast, hgrpc, route, hhttp, -⟩ := h
  obtain ⟨fast, grpc, http, fallback⟩ := selections
  obtain rfl : fast = none := hfast
  obtain rfl : grpc = none := hgrpc
  obtain rfl : http = some route := hhttp
  have hstages : pathStages crate o ⟨none, none, some route, fallback⟩
      = (httpRouteStages crate o route).dropLast ++ [wasmStage o] := rfl
  rw [hstages, ← List.append_assoc, HandsOn, runStages_append, ← HandsOn, handsOn_andThen] at hnext
  exact decide_eq_true hnext.1

theorem byHttpRoute_of_reachesPlugins (h : reachesPlugins crate o selections = true) :
    ByHttpRoute selections := by
  rw [reachesPlugins] at h
  split at h
  next hfast hgrpc hhttp => exact ⟨hfast, hgrpc, by rw [hhttp]; rfl⟩
  next => cases h

theorem reachesPlugins_iff (h : Forwarded crate o selections) :
    reachesPlugins crate o selections = true ↔ ByHttpRoute selections :=
  ⟨byHttpRoute_of_reachesPlugins,
    fun hhttp => reachesPlugins_of_reachesAi (reachesAi_of_forwarded h hhttp)⟩

theorem respond_ne_forwarded (reply : Reply) (st st' : FilterState) :
    ((respond o reply).andThen (finish false)) st ≠ (.done false, st') := by
  rw [Stage.andThen, respond]
  cases o.writes reply <;> simp

theorem preProcessed_iff (h : Forwarded crate o selections) {ai : AiOutcome}
    (hai : o.ai = some ai) (hpath : ai.processesPath = true) :
    PreProcessed crate o selections ↔ ByHttpRoute selections := by
  constructor
  · rintro ⟨⟨-, hfast, hgrpc, route, hhttp, -⟩, -⟩
    exact ⟨hfast, hgrpc, by rw [hhttp]; rfl⟩
  · intro hhttp
    have hreaches := reachesAi_of_forwarded h hhttp
    obtain ⟨st, hst, -⟩ := h
    obtain ⟨st', hst'⟩ := exists_of_reachesAi hreaches
    rw [hst'] at hst
    refine ⟨hreaches, ai, hai, hpath, ?_⟩
    -- otherwise the request is answered here
    unfold aiStage at hst
    rw [hai] at hst
    dsimp only at hst
    rw [hpath, Bool.not_true, if_neg Bool.false_ne_true] at hst
    cases hread :
      readBody (aiRequestBodyLimitExceeded · · ai.maxRequestBodyBytes) ai.bodyReads 0 with
    | complete => rfl
    | tooLarge =>
      rw [hread] at hst
      exact absurd hst (respond_ne_forwarded _ _ _)
    | error =>
      rw [hread] at hst
      exact absurd hst (respond_ne_forwarded _ _ _)

end

/-! ## What the filters see -/

section

variable {crate : IpNetCrate} {o : Outcomes} {selections : Selections}
  {wasm : Option Ai.WasmPluginFilter} {invoke : Ai.Invoke} {permit : Bool}
  {ai : Option (AiCall Json)}

/-- The plugins get to see the request: it goes by an HTTP route, there is a permit, and no plugin
but the last one ends the walk. -/
def PluginsReached (selections : Selections) (wasm : Option Ai.WasmPluginFilter)
    (invoke : Ai.Invoke) (permit : Bool) : Prop :=
  ∀ filter, wasm = some filter → filter.onRequestPluginNames = [] ∨
    (ByHttpRoute selections ∧ permit = true ∧
      ∀ name ∈ filter.onRequestPluginNames.dropLast, Ai.Continues invoke name)

def AiReached (selections : Selections) (ai : Option (AiCall Json)) : Prop :=
  ∀ call, ai = some call → aiGatewayShouldProcessPath call.request.path = true →
    ByHttpRoute selections

theorem wasmOutcome_of_reject {filter : Ai.WasmPluginFilter} {name : String}
    (hname : name ∈ (filter.preProcess invoke permit).2) {code : ℤ}
    (hreject : invoke name = .ok (.reject code)) :
    ∃ code', wasmOutcome (some filter) invoke permit = some (.rejected code') := by
  obtain ⟨by', code', hrejected⟩ := Ai.runHook_of_reject hname hreject
  refine ⟨code', ?_⟩
  rw [Ai.WasmPluginFilter.preProcess] at hname
  have hne : filter.onRequestPluginNames.isEmpty = false := by
    by_contra hempty
    rw [Ai.runHook, if_pos (by simpa using hempty)] at hname
    exact absurd hname List.not_mem_nil
  rw [wasmOutcome, Option.bind_some, hne, if_neg Bool.false_ne_true, Ai.WasmPluginFilter.preProcess,
    hrejected]

theorem pluginsRun_iff (h : Forwarded crate (o.withFilters wasm invoke permit ai) selections) :
    PluginsRun crate (o.withFilters wasm invoke permit ai) selections wasm invoke permit ↔
      PluginsReached selections wasm invoke permit := by
  have hreached := reachesPlugins_iff h
  constructor
  · intro hrun filter hfilter
    by_cases hnil : filter.onRequestPluginNames = []
    · exact .inl hnil
    · have hasked := (hrun filter hfilter).1
      rw [askedPlugins] at hasked
      split at hasked
      next hreaches =>
        rcases (Ai.runHook_snd_eq_iff _ _ _).mp hasked with hnil' | ⟨hpermit, hcontinue⟩
        · exact absurd hnil' hnil
        · exact .inr ⟨hreached.mp hreaches, hpermit, hcontinue⟩
      next => exact absurd hasked.symm hnil
  · intro hreach filter hfilter
    rcases hreach filter hfilter with hnil | ⟨hhttp, hpermit, hcontinue⟩
    · refine ⟨?_, fun name hname => ?_⟩
      · rw [askedPlugins, hnil]
        split
        · rw [Ai.WasmPluginFilter.preProcess, hnil]
          rfl
        · rfl
      · rw [hnil] at hname
        exact absurd hname List.not_mem_nil
    · have hall : (filter.preProcess invoke permit).2 = filter.onRequestPluginNames :=
        (Ai.runHook_snd_eq_iff _ _ _).mpr (.inr ⟨hpermit, hcontinue⟩)
      refine ⟨by rw [askedPlugins, if_pos (hreached.mpr hhttp), hall],
        fun name hname code hreject => ?_⟩
      -- a rejection is answered, and the request was not
      obtain ⟨code', hrejected⟩ := wasmOutcome_of_reject (by rw [hall]; exact hname) hreject
      obtain ⟨-, -, -, route, -, hcleared⟩ := reachesAi_of_forwarded h hhttp
      refine hcleared.wasm code' ?_
      rw [← hrejected, ← hfilter]
      rfl

theorem aiRuns_iff (h : Forwarded crate (o.withFilters wasm invoke permit ai) selections) :
    AiRuns crate (o.withFilters wasm invoke permit ai) selections ai ↔ AiReached selections ai := by
  refine forall_congr' fun call => imp_congr_right fun hcall => imp_congr_right fun hpath => ?_
  have hai : (o.withFilters wasm invoke permit ai).ai = some (aiOutcome call.cr call.env call.filter
      call.maxRequestBodyBytes call.request) := by
    rw [Outcomes.withFilters, hcall]
    rfl
  exact preProcessed_iff h hai hpath

end

/-! ## The way back -/

def StoppedOtherwise (proxy : ResponseProxy) (env : ResponseEnv) (upstream : ResponseHeader)
    (ctx : ResponseContext C) : Prop :=
  env.retryable = true ∨ ((editForBackend proxy env ctx upstream.headers).bind fun headers =>
      applyPluginHeaders env.hashOrder headers ctx.wasmResponseHeaders) = none

/-- **A response that a plugin rejects is stopped only if something else stops it.** -/
theorem responseFilter_of_rejects {proxy : ResponseProxy} {env : ResponseEnv}
    (h : RejectsResponse proxy env) (upstream : ResponseHeader) (ctx : ResponseContext C) :
    (responseFilter proxy env upstream ctx).1 = none ↔ StoppedOtherwise proxy env upstream ctx := by
  obtain ⟨filter, hfilter, name, hname, code, hreject⟩ := h
  obtain ⟨by', code', hrejected⟩ := Ai.runHook_of_reject hname hreject
  have hplugins : editForPlugins proxy env ctx
      = fun headers => applyPluginHeaders env.hashOrder headers ctx.wasmResponseHeaders := by
    funext headers
    rw [editForPlugins, onResponseOutcome, hfilter]
    dsimp only
    rw [Ai.WasmPluginFilter.postProcess, hrejected]
    cases applyPluginHeaders env.hashOrder headers ctx.wasmResponseHeaders with
    | none => rfl
    | some headers => rfl
  rw [responseFilter_fst, editedHeader, StoppedOtherwise, hplugins]
  cases env.retryable with
  | true => simp
  | false =>
    rw [if_neg Bool.false_ne_true, Option.map_eq_none_iff]
    simp

/-- **When plugins and the AI gateway cover every request**: a forwarded request has been seen by
all of them exactly if it went by an HTTP route, or there is nothing to see it, and no plugin but
the last failed to let it go on. -/
theorem plugins_cover_iff (crate : IpNetCrate) (o : Outcomes) (selections : Selections)
    (proxy : ResponseProxy) (invoke : Ai.Invoke) (permit : Bool) (ai : Option (AiCall Json))
    (env : ResponseEnv) (upstream : ResponseHeader) (ctx : ResponseContext C) :
    ((Forwarded crate (o.withFilters proxy.wasmFilter invoke permit ai) selections →
        PluginsRun crate (o.withFilters proxy.wasmFilter invoke permit ai) selections
          proxy.wasmFilter invoke permit ∧
        AiRuns crate (o.withFilters proxy.wasmFilter invoke permit ai) selections ai) ∧
      (RejectsResponse proxy env → (responseFilter proxy env upstream ctx).1 = none)) ↔
    ((Forwarded crate (o.withFilters proxy.wasmFilter invoke permit ai) selections →
        PluginsReached selections proxy.wasmFilter invoke permit ∧ AiReached selections ai) ∧
      (RejectsResponse proxy env → StoppedOtherwise proxy env upstream ctx)) := by
  refine and_congr (imp_congr_right fun hforwarded => ?_) (imp_congr_right fun hrejects => ?_)
  · rw [pluginsRun_iff hforwarded, aiRuns_iff hforwarded]
  · exact responseFilter_of_rejects hrejects upstream ctx

/-! ## A plugin that rejects everything -/

private def denyFilter : Ai.WasmPluginFilter where
  onRequestPluginNames := ["deny"]
  onResponsePluginNames := ["deny"]

private def deny : Ai.Invoke := fun _ => .ok (.reject 403)

private def guardedProxy : ResponseProxy := { plainProxy with wasmFilter := some denyFilter }

private def guardedOutcomes : Outcomes :=
  Outcomes.withFilters {} guardedProxy.wasmFilter deny true (none : Option (AiCall Empty))

/-- **On the fast path the plugin is not asked, and the response that it rejects is delivered.** -/
theorem fast_path_skips_plugins : Forwarded cidrBlocks guardedOutcomes (webSelections []) ∧
    askedPlugins cidrBlocks guardedOutcomes (webSelections []) denyFilter deny true = [] ∧
    RejectsResponse guardedProxy { onResponse := deny } ∧
    (responseFilter guardedProxy { onResponse := deny } ⟨200, []⟩ ({} : ResponseContext Empty)).1
      = some ⟨200, []⟩ ∧
    ¬ (Forwarded cidrBlocks guardedOutcomes (webSelections []) →
      PluginsRun cidrBlocks guardedOutcomes (webSelections []) guardedProxy.wasmFilter deny true) ∧
    ¬ (RejectsResponse guardedProxy { onResponse := deny } →
      (responseFilter guardedProxy { onResponse := deny } ⟨200, []⟩
        ({} : ResponseContext Empty)).1 = none) := by
  have hflow : (doRequestFilter cidrBlocks guardedOutcomes (webSelections []) {}).1
      = .done false := by
    decide +kernel
  have hforwarded : Forwarded cidrBlocks guardedOutcomes (webSelections []) :=
    ⟨_, Prod.ext hflow rfl, by decide +kernel⟩
  have hasked : askedPlugins cidrBlocks guardedOutcomes (webSelections []) denyFilter deny true
      = [] := by
    decide +kernel
  have hrejects : RejectsResponse guardedProxy { onResponse := deny } :=
    ⟨denyFilter, rfl, "deny", by decide +kernel, 403, rfl⟩
  have hdelivered : (responseFilter guardedProxy { onResponse := deny } ⟨200, []⟩
      ({} : ResponseContext Empty)).1 = some ⟨200, []⟩ := by
    decide +kernel
  refine ⟨hforwarded, hasked, hrejects, hdelivered, fun h => ?_, fun h => ?_⟩
  · exact (h hforwarded denyFilter rfl).2 "deny" List.mem_cons_self 403 rfl
  · rw [h hrejects] at hdelivered
    cases hdelivered

end NantianGateway.Http
