import NantianGateway.Ir.ResolvesAlike

/-!
# The default backend of a mesh listener

A listener in front of a service serves requests without a route from the service itself, if routes
are attached to some listener of the service.  Through the indexes *idle* frontends are passed over;
the scan takes the first frontend on the port and gives up when that one is idle.
-/

namespace NantianGateway

open Text List Option

namespace Snapshot

variable {cr : Crates} {s : Snapshot}

/-! ## The frontends on a port -/

/-- The service frontends on a port, in the order of the listeners. -/
def frontendsOn (s : Snapshot) (port : UInt32) : List (Listener × ServiceFrontendRef) :=
  s.listeners.filterMap fun listener =>
    if listener.port = port then (serviceFrontend listener).map fun frontend => (listener, frontend)
    else none

/-- A frontend without routes attached to it or to its service. -/
def idle (s : Snapshot) (entry : Listener × ServiceFrontendRef) : Bool :=
  entry.1.attachedRoutes.isEmpty && !s.serviceHasRoutes entry.2

/-- The service of a frontend has a cluster with an endpoint to offer. -/
def Offers (s : Snapshot) (frontend : ServiceFrontendRef) : Prop :=
  ∃ cluster ∈ s.backends,
    backendClusterMatchesRef cluster frontend.namespace frontend.name frontend.port = true ∧
      ∃ endpoint ∈ cluster.endpoints, s.servable (backendClusterName cluster) endpoint = true

theorem hasNoAttachedRoutes_eq (h : s.Coherent cr) (hunique : s.UniqueListeners)
    (entry : Listener × ServiceFrontendRef) :
    s.hasNoAttachedRoutes entry.1 entry.2 = s.idle entry := by
  rw [hasNoAttachedRoutes, idle, serviceFrontendHasAttachedRoutes_eq h hunique]

/-! ## The two ways -/

theorem selectDefault_scan (h : s.Coherent cr) (hunique : s.UniqueListeners)
    (request : RequestMeta) (now : Instant) (st : SelectionState) :
    s.selectListenerDefaultBackendSlowPath request now st
      = match (s.frontendsOn request.port).head?.filter fun entry => !s.idle entry with
        | none => (none, st)
        | some entry => s.listenerDefaultBackend entry.1 entry.2 now st := by
  have hfirst : (s.listeners.findSome? fun listener =>
      if listener.port = request.port then
        (s.serviceFrontendForListener listener).map fun frontend => (listener, frontend)
      else none) = (s.frontendsOn request.port).head? := by
    rw [frontendsOn, ← List.head?_filterMap]
    refine congrArg List.head? (filterMap_congr fun listener hmem => ?_)
    rw [frontendFor_eq h hunique hmem]
  rw [selectListenerDefaultBackendSlowPath, hfirst]
  cases (s.frontendsOn request.port).head? with
  | none => rfl
  | some entry =>
    simp only [hasNoAttachedRoutes_eq h hunique, filter_some]
    cases s.idle entry <;> rfl

theorem defaultBackendFromIndices_eq (h : s.Coherent cr) (hunique : s.UniqueListeners)
    (now : Instant) (st : SelectionState) {entries : List (Listener × ℕ)}
    (hat : ∀ entry ∈ entries, s.listeners[entry.2]? = some entry.1)
    (hfrontend : ∀ entry ∈ entries, (serviceFrontend entry.1).isSome = true) :
    s.defaultBackendFromIndices now (entries.map Prod.snd) st
      = match (entries.filterMap fun entry =>
            (serviceFrontend entry.1).map fun frontend => (entry.1, frontend)).find?
              fun entry => !s.idle entry with
        | none => (none, st)
        | some entry => s.listenerDefaultBackend entry.1 entry.2 now st := by
  induction entries with
  | nil => rfl
  | cons entry entries ih =>
    have hentry := hat entry mem_cons_self
    obtain ⟨frontend, hsome⟩ :=
      isSome_iff_exists.mp (hfrontend entry mem_cons_self)
    have hrest := ih (fun e he => hat e (mem_cons_of_mem _ he))
      fun e he => hfrontend e (mem_cons_of_mem _ he)
    rw [map_cons, defaultBackendFromIndices, hentry]
    simp only [frontendFor_eq h hunique (mem_of_getElem? hentry), hsome,
      hasNoAttachedRoutes_eq h hunique (entry.1, frontend), filterMap_cons, map_some,
      List.find?_cons]
    cases s.idle (entry.1, frontend) with
    | true => exact hrest
    | false => rfl

theorem selectListenerDefaultBackendFromIndices_eq (h : s.Indexed cr)
    (hunique : s.UniqueListeners) (request : RequestMeta) (now : Instant) (st : SelectionState) :
    s.selectListenerDefaultBackendFromIndices request now st
      = match (s.frontendsOn request.port).find? fun entry => !s.idle entry with
        | none => (none, st)
        | some entry => s.listenerDefaultBackend entry.1 entry.2 now st := by
  have hfront : ((s.listeners.zipIdx.filter fun entry =>
        (serviceFrontend entry.1).isSome).filter fun entry =>
          entry.1.port = request.port).filterMap (fun entry =>
            (serviceFrontend entry.1).map fun frontend => (entry.1, frontend))
      = s.frontendsOn request.port := by
    rw [frontendsOn, ← zipIdx_map_fst 0 s.listeners, filterMap_map, List.filter_filter,
      filterMap_filter, zipIdx_map_fst]
    refine filterMap_congr fun entry _ => ?_
    cases hfrontend : serviceFrontend entry.1 with
    | none => simp [hfrontend]
    | some frontend => simp [hfrontend]
  have hvalues : Table.valuesAt ((s.listeners.zipIdx.filter fun entry =>
        (serviceFrontend entry.1).isSome).map fun entry => (entry.1.port, entry.2)) request.port
      = ((s.listeners.zipIdx.filter fun entry => (serviceFrontend entry.1).isSome).filter
          fun entry => entry.1.port = request.port).map Prod.snd := by
    rw [Table.valuesAt, List.filter_map, List.map_map]
    rfl
  rw [← hfront, ← defaultBackendFromIndices_eq h.coherent hunique now st,
    selectListenerDefaultBackendFromIndices, h.serviceFrontendListenerPortIndex,
    buildServiceFrontendListenerPortIndex, Table.pushAll_apply, hvalues]
  · split
    · next hnone =>
      rw [ite_eq_left_iff] at hnone
      rw [not_not.mp fun hne => some_ne_none _ (hnone hne)]
      rfl
    · next indices hsome =>
      split at hsome
      · cases hsome
      · rw [Option.some.inj hsome]
  · intro entry hentry
    exact getElem?_of_mem_zipIdx (mem_of_mem_filter (mem_of_mem_filter hentry))
  · intro entry hentry
    exact (mem_filter.mp (mem_of_mem_filter hentry)).2

/-! ## What a listener serves -/

theorem defaultBackend_cases (h : s.Coherent cr) (hunique : s.UniqueClusters)
    (listener : Listener) (frontend : ServiceFrontendRef) (now : Instant) (st : SelectionState) :
    (¬s.Offers frontend ∧ s.listenerDefaultBackend listener frontend now st = (none, st)) ∨
      (s.Offers frontend ∧ ∃ selected st',
        s.listenerDefaultBackend listener frontend now st = (some selected, st')) := by
  rw [listenerDefaultBackend, defaultServiceBackend, selectServiceBackend, backendClusterForService]
  cases hfound : s.backendClusterForServiceIndex frontend.namespace frontend.name frontend.port with
  | none =>
    refine .inl ⟨?_, rfl⟩
    rintro ⟨cluster, hmem, hmatch, -⟩
    have hnone := (clusterForService_eq_none h).mp hfound cluster hmem
    exact Bool.false_ne_true (hnone.symm.trans hmatch)
  | some found =>
    obtain ⟨i, cluster⟩ := found
    obtain ⟨hi, hmatch⟩ := clusterForService_some h hfound
    simp only [map_some, selectClusterEndpoint_eq]
    by_cases hnil : s.eligibleEndpoints (backendClusterName cluster) now cluster = []
    · rw [if_pos hnil]
      refine .inl ⟨?_, rfl⟩
      rintro ⟨other, hother, hmatch', endpoint, hendpoint, hservable⟩
      obtain ⟨j, hj⟩ := mem_iff_getElem?.mp hother
      have hsame := hfound.symm.trans ((clusterForService_eq_some h hunique).mpr ⟨hj, hmatch'⟩)
      obtain rfl := (Prod.mk.inj (Option.some.inj hsame)).2
      have hnone := eligible_eq_nil.mp hnil endpoint hendpoint
      exact Bool.false_ne_true (hnone.symm.trans hservable)
    · rw [if_neg hnil]
      right
      constructor
      · rw [eligible_eq_nil] at hnil
        push Not at hnil
        obtain ⟨endpoint, hendpoint, hservable⟩ := hnil
        exact ⟨cluster, mem_of_getElem? hi, hmatch, endpoint, hendpoint,
          (Bool.not_eq_false _).mp hservable⟩
      · have hlt := Nat.mod_lt st.nextEndpointTicket.1.toNat (length_pos_iff.mpr hnil)
        rw [List.getElem?_eq_getElem hlt]
        exact ⟨_, _, rfl⟩

/-! ## Comparing the two ways -/

/-- **With indexes the answer is that of the indexed path.**  It falls through to the scan
only when the scan finds nothing either. -/
theorem selectDefault_ready (h : s.Indexed cr) (hl : s.UniqueListeners)
    (hc : s.UniqueClusters) (request : RequestMeta) (now : Instant) (st : SelectionState) :
    s.selectListenerDefaultBackend request now st
      = match (s.frontendsOn request.port).find? fun entry => !s.idle entry with
        | none => (none, st)
        | some entry => s.listenerDefaultBackend entry.1 entry.2 now st := by
  rw [selectListenerDefaultBackend, if_pos h.ready, selectListenerDefaultBackendFromIndices_eq h hl]
  simp only [selectDefault_scan h.coherent hl]
  cases hfront : s.frontendsOn request.port with
  | nil => rfl
  | cons first rest =>
    rw [List.find?_cons, List.head?_cons, filter_some]
    cases s.idle first with
    | false =>
      simp only [Bool.not_false, if_true]
      rcases defaultBackend_cases h.coherent hc first.1 first.2 now st with
        ⟨-, hnone⟩ | ⟨-, selected, st', hsome⟩
      · rw [hnone]
        exact hnone
      · rw [hsome]
    | true =>
      simp only [Bool.not_true]
      cases rest.find? fun entry => !s.idle entry with
      | none => rfl
      | some entry =>
        rcases defaultBackend_cases h.coherent hc entry.1 entry.2 now st with
          ⟨-, hnone⟩ | ⟨-, selected, st', hsome⟩
        · simp only [hnone, Bool.false_eq_true, if_false]
        · simp only [hsome]

/-- **When the two ways agree**: unless the first frontend on the port is idle while the
first one that is not has a service with something to offer. -/
def DefaultsAgree (s : Snapshot) (port : UInt32) : Prop :=
  ∀ first ∈ (s.frontendsOn port).head?, s.idle first = true →
    ∀ entry ∈ (s.frontendsOn port).find? (fun entry => !s.idle entry), ¬s.Offers entry.2

/-- What a selection says about the listener, the service and the cluster. -/
def defaultView (selected : SelectedBackend) : String × String × String :=
  (selected.listenerName, selected.routeNamespace, selected.backendName)

/-- **The indexes change the default backend exactly where the two ways disagree**; there
the indexed path serves and the scan does not. -/
theorem selectListenerDefaultBackend_agree_iff (cr : Crates) (s : Snapshot)
    (hl : s.UniqueListeners) (hc : s.UniqueClusters) (request : RequestMeta) (now : Instant)
    (st : SelectionState) :
    (((s.rebuildRuntimeIndexes cr).selectListenerDefaultBackend request now st).1.map defaultView
        = (s.withoutIndexes.selectListenerDefaultBackend request now st).1.map defaultView ↔
      s.DefaultsAgree request.port) ∧
    (s.DefaultsAgree request.port →
      (s.rebuildRuntimeIndexes cr).selectListenerDefaultBackend request now st
        = s.withoutIndexes.selectListenerDefaultBackend request now st) := by
  have hindexed := indexed_rebuild cr s
  have hscan : s.withoutIndexes.Coherent cr := coherent_of_not_ready rfl
  have hsame : (s.rebuildRuntimeIndexes cr).listenerDefaultBackend
      = s.withoutIndexes.listenerDefaultBackend := by
    funext listener frontend now st
    simp only [listenerDefaultBackend, defaultServiceBackend,
      (resolvesAlike_rebuild cr hc).selectServiceBackend_congr]
  have hready : (s.rebuildRuntimeIndexes cr).selectListenerDefaultBackend request now st
      = match (s.frontendsOn request.port).find? fun entry => !s.idle entry with
        | none => (none, st)
        | some entry => s.withoutIndexes.listenerDefaultBackend entry.1 entry.2 now st := by
    rw [selectDefault_ready hindexed hl hc, hsame]
    rfl
  have hslow : s.withoutIndexes.selectListenerDefaultBackend request now st
      = match (s.frontendsOn request.port).head?.filter fun entry => !s.idle entry with
        | none => (none, st)
        | some entry => s.withoutIndexes.listenerDefaultBackend entry.1 entry.2 now st :=
    selectDefault_scan hscan hl request now st
  rw [hready, hslow, DefaultsAgree]
  cases hfrontends : s.frontendsOn request.port with
  | nil => simp
  | cons first rest =>
    rw [List.find?_cons, List.head?_cons, filter_some]
    cases hidle : s.idle first with
    | false => simp [hidle]
    | true =>
      simp only [Bool.not_true, Bool.false_eq_true, if_false, map_none,
        mem_some_iff, forall_eq', hidle, forall_const]
      cases rest.find? fun entry => !s.idle entry with
      | none => simp
      | some entry =>
        simp only [mem_some_iff, forall_eq']
        rcases defaultBackend_cases hscan hc entry.1 entry.2 now st with
          ⟨hoff, hnone⟩ | ⟨hoff, selected, st', hsome⟩
        · rw [hnone]
          exact ⟨⟨fun _ => hoff, fun _ => rfl⟩, fun _ => rfl⟩
        · rw [hsome]
          exact ⟨⟨fun heq => (some_ne_none _ heq).elim, fun hno => (hno hoff).elim⟩,
            fun hno => (hno hoff).elim⟩

def frontendMetadata («namespace» name port : String) : BTreeMap String :=
  (((BTreeMap.empty.alter "nantian.dev/frontend-kind" fun _ => "Service").alter
    "nantian.dev/frontend-namespace" fun _ => «namespace»).alter
    "nantian.dev/frontend-name" fun _ => name).alter "nantian.dev/frontend-port" fun _ => port

def twoFrontendSnapshot (first second : List String) : Snapshot :=
  { listeners :=
      [{ name := "a", port := 80, protocol := "HTTP", attachedRoutes := first
         metadata := frontendMetadata "default" "spare" "8080" },
       { name := "b", port := 80, protocol := "HTTP", attachedRoutes := second
         metadata := frontendMetadata "default" "app" "8080" }]
    backends :=
      [{ name := "spare:8080"
         «namespace» := "default"
         endpoints := [{ address := "10.0.0.1", port := 8080, healthy := true }] },
       { name := "app:8080"
         «namespace» := "default"
         endpoints := [{ address := "10.0.0.2", port := 8080, healthy := true }] }] }

theorem selectListenerDefaultBackend_agree_attached :
    ((twoFrontendSnapshot ["default/web"] []).rebuildRuntimeIndexes
        inertCrates).selectListenerDefaultBackend { port := 80 } 0 {}
      = (twoFrontendSnapshot ["default/web"] []).withoutIndexes.selectListenerDefaultBackend
        { port := 80 } 0 {} ∧
      ((twoFrontendSnapshot ["default/web"] []).withoutIndexes.selectListenerDefaultBackend
        { port := 80 } 0 {}).1.map defaultView = some ("a", "default", "default/spare:8080") := by
  refine ⟨?_, by decide +kernel⟩
  refine (selectListenerDefaultBackend_agree_iff inertCrates
    (twoFrontendSnapshot ["default/web"] []) (by decide +kernel) (by decide +kernel) { port := 80 }
    0 {}).2 ?_
  intro first hfirst hidle
  have hhead : (((twoFrontendSnapshot ["default/web"] []).frontendsOn 80).head?.map
      fun entry => (twoFrontendSnapshot ["default/web"] []).idle entry) = some false := by
    decide +kernel
  rw [mem_def.mp hfirst, map_some, hidle] at hhead
  exact (Bool.false_ne_true (Option.some.inj hhead).symm).elim

/-- **An idle frontend hides the one after it from the scan.** -/
theorem selectListenerDefaultBackend_idle_first :
    (twoFrontendSnapshot [] ["default/web"]).UniqueListeners ∧
      (twoFrontendSnapshot [] ["default/web"]).UniqueClusters ∧
      (((twoFrontendSnapshot [] ["default/web"]).rebuildRuntimeIndexes
        inertCrates).selectListenerDefaultBackend { port := 80 } 0 {}).1.map defaultView
        = some ("b", "default", "default/app:8080") ∧
      ((twoFrontendSnapshot [] ["default/web"]).withoutIndexes.selectListenerDefaultBackend
        { port := 80 } 0 {}).1.map defaultView = none := by
  decide +kernel

end Snapshot
end NantianGateway
