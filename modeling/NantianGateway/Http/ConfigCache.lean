import NantianGateway.Http.RequestContext

/-!
# The configurations that a thread remembers

`selected_backend_config_cached` computes a configuration once for each key under an id.  But a
configuration also has a handle, which records into the store of the snapshot it was made from, and
**an id that comes back comes with a new store**.
-/

namespace NantianGateway.Http.SelectedBackendConfigCache

open Option RequestLifecycle

/-! ## The cache -/

structure EndpointRuntimeHandle where
  store : ℕ
  key : EndpointRuntimeKey

structure SelectedBackendConfig (F : Type) where
  runtime : EndpointRuntimeHandle
  fields : F

structure Key where
  routeKind : UInt8
  listener : UInt64
  route : UInt64
  rule : UInt64
  backend : UInt64
  endpoint : UInt64
deriving DecidableEq

def routeKindCacheKey : RouteKind → UInt8
  | .http => 1
  | .grpc => 2
  | .tcp => 3
  | .udp => 4
  | .tls => 5

def selectedBackendConfigCacheKey (routeKind : RouteKind)
    (runtimeIds : SelectedBackendRuntimeIds UInt64) : Option Key := do
  return ⟨routeKindCacheKey routeKind, ← runtimeIds.listener, ← runtimeIds.route,
    runtimeIds.rule.getD 0, ← runtimeIds.backend, ← runtimeIds.endpoint⟩

structure State (F : Type) where
  snapshotId : String := ""
  entries : Table Key (SelectedBackendConfig F) := .empty

section

variable {F : Type} (state : State F) (snapshotId : String) (key : Key)

def get : Option (SelectedBackendConfig F) :=
  if snapshotId = "" ∨ state.snapshotId ≠ snapshotId then none else state.entries key

def insertOrGet (config : SelectedBackendConfig F) : SelectedBackendConfig F × State F :=
  if snapshotId = "" then (config, state)
  else
    let state := if state.snapshotId ≠ snapshotId then ⟨snapshotId, .empty⟩ else state
    match state.entries key with
    | some existing => (existing, state)
    | none => (config, { state with entries := state.entries.insert key config })

variable {state snapshotId key}

theorem insertOrGet_eq (hid : snapshotId ≠ "") (h : get state snapshotId key = none)
    (config : SelectedBackendConfig F) :
    insertOrGet state snapshotId key config
      = (config, ⟨snapshotId, Table.insert (get state snapshotId) key config⟩) := by
  have hstate : (if state.snapshotId ≠ snapshotId then ⟨snapshotId, .empty⟩ else state)
      = (⟨snapshotId, get state snapshotId⟩ : State F) := by
    obtain ⟨id, entries⟩ := state
    by_cases hsame : id = snapshotId
    · rw [if_neg (not_not.mpr hsame), State.mk.injEq]
      exact ⟨hsame, funext fun _ => (if_neg (not_or.mpr ⟨hid, not_not.mpr hsame⟩)).symm⟩
    · rw [if_pos hsame, State.mk.injEq]
      exact ⟨rfl, funext fun _ => (if_pos (.inr hsame)).symm⟩
  rw [insertOrGet, if_neg hid, hstate]
  simp only [h]

end

/-- A snapshot that was installed.  Its id names its content; its store is its own. -/
structure Installed where
  id : String
  store : ℕ

inductive Selection where
  | slow (selected : SelectedBackend)
  | fast (selected : CompiledSelectedHttpBackend)

def Selection.routeKind : Selection → RouteKind
  | slow selected => selected.routeKind
  | fast _ => .http

def Selection.endpointKey : Selection → EndpointRuntimeKey
  | slow selected => .new selected.backendName selected.backend
  | fast selected => .new selected.backendName selected.backend

structure Served where
  snapshot : Installed
  selection : Selection

/-- What the content under an id makes of a selection: its runtime ids, and the fields of its
configuration, or the error that the TLS settings end in. -/
structure Contents (F ε : Type) where
  runtimeIds : String → Selection → SelectedBackendRuntimeIds UInt64
  fields : String → Selection → Except ε F

section

variable {F ε : Type} (contents : Contents F ε) (request : Served)

/-- The configuration as it is computed from the request's own snapshot. -/
def fresh : Except ε (SelectedBackendConfig F) :=
  (contents.fields request.snapshot.id request.selection).map fun fields =>
    ⟨⟨request.snapshot.store, request.selection.endpointKey⟩, fields⟩

def cacheKey : Option Key :=
  selectedBackendConfigCacheKey request.selection.routeKind
    (contents.runtimeIds request.snapshot.id request.selection)

/-- `selected_backend_config_cached`, and its variant for the fast path. -/
def selectedBackendConfigCached (state : State F) : Except ε (SelectedBackendConfig F) × State F :=
  match cacheKey contents request with
  | none => (fresh contents request, state)
  | some key =>
    match get state request.snapshot.id key with
    | some config => (.ok config, state)
    | none =>
      match fresh contents request with
      | .error error => (.error error, state)
      | .ok config => (insertOrGet state request.snapshot.id key config).map .ok id

def stateAfter : List Served → State F
  | [] => {}
  | request :: earlier => (selectedBackendConfigCached contents request (stateAfter earlier)).2

variable {contents request} {state : State F}

variable {config : SelectedBackendConfig F} {id : String}

theorem get_cached {key : Key}
    (h : get (selectedBackendConfigCached contents request state).2 id key = some config) :
    get state id key = some config ∨ request.snapshot.id = id ∧
      cacheKey contents request = some key ∧ fresh contents request = .ok config := by
  rw [selectedBackendConfigCached] at h
  cases hkey : cacheKey contents request with
  | none =>
    rw [hkey] at h
    exact .inl h
  | some key' =>
    simp only [hkey] at h
    cases hget : get state request.snapshot.id key' with
    | some existing =>
      rw [hget] at h
      exact .inl h
    | none =>
      rw [hget] at h
      cases hfresh : fresh contents request with
      | error error =>
        rw [hfresh] at h
        exact .inl h
      | ok made =>
        simp only [hfresh] at h
        by_cases hid : request.snapshot.id = ""
        · rw [insertOrGet, if_pos hid] at h
          exact .inl h
        rw [insertOrGet_eq hid hget] at h
        obtain ⟨hsame, hentry⟩ := ite_none_left_eq_some.mp h
        obtain rfl : request.snapshot.id = id := not_not.mp (not_or.mp hsame).2
        rcases ite_eq_iff.mp hentry with ⟨heq, hmade⟩ | ⟨-, hbefore⟩
        · exact .inr ⟨rfl, congrArg some heq.symm, congrArg _ (some.inj hmade)⟩
        · exact .inl hbefore

theorem of_get_stateAfter {history : List Served} {key : Key}
    (h : get (stateAfter contents history) id key = some config) :
    ∃ earlier ∈ history, earlier.snapshot.id = id ∧ cacheKey contents earlier = some key ∧
      fresh contents earlier = .ok config := by
  induction history with
  | nil => cases (ite_none_left_eq_some.mp h).2
  | cons request history ih =>
    rcases get_cached h with h | h
    · obtain ⟨earlier, hmem, h⟩ := ih h
      exact ⟨earlier, List.mem_cons_of_mem _ hmem, h⟩
    · exact ⟨request, List.mem_cons_self, h⟩

theorem fresh_eq_ok_iff : fresh contents request = .ok config ↔
      config.runtime = ⟨request.snapshot.store, request.selection.endpointKey⟩ ∧
      contents.fields request.snapshot.id request.selection = .ok config.fields := by
  rw [fresh]
  cases contents.fields request.snapshot.id request.selection with
  | error error => exact iff_of_false nofun fun h => nomatch h.2
  | ok fields =>
    constructor
    · intro h
      obtain rfl := Except.ok.inj h
      exact ⟨rfl, rfl⟩
    · rintro ⟨hruntime, hfields⟩
      rw [Except.map, Except.ok.inj hfields, ← hruntime]

/-- **When a request is given its own configuration**: if the earlier requests under the id of its
snapshot were of the same store, and those under its key of the same endpoint and fields; and
exactly if the entry it finds was made from that store, with these fields. -/
theorem config_cache_fresh_iff (contents : Contents F ε) (history : List Served)
    (request : Served) :
    ((∀ earlier ∈ history, earlier.snapshot.id = request.snapshot.id →
        earlier.snapshot.store = request.snapshot.store ∧
        (cacheKey contents earlier = cacheKey contents request →
          earlier.selection.endpointKey = request.selection.endpointKey ∧
          contents.fields request.snapshot.id earlier.selection
            = contents.fields request.snapshot.id request.selection)) →
      (selectedBackendConfigCached contents request (stateAfter contents history)).1
        = fresh contents request) ∧
    ((selectedBackendConfigCached contents request (stateAfter contents history)).1
        = fresh contents request ↔
      ∀ key ∈ cacheKey contents request,
        ∀ config ∈ get (stateAfter contents history) request.snapshot.id key,
          config.runtime = ⟨request.snapshot.store, request.selection.endpointKey⟩ ∧
          contents.fields request.snapshot.id request.selection = .ok config.fields) := by
  have hiff : (selectedBackendConfigCached contents request (stateAfter contents history)).1
      = fresh contents request ↔ ∀ key ∈ cacheKey contents request,
        ∀ config ∈ get (stateAfter contents history) request.snapshot.id key,
          fresh contents request = .ok config := by
    rw [selectedBackendConfigCached]
    cases cacheKey contents request with
    | none => exact iff_of_true rfl nofun
    | some key =>
      simp only [mem_some, forall_eq']
      cases hget : get (stateAfter contents history) request.snapshot.id key with
      | some config => simp [eq_comm]
      | none =>
        refine iff_of_true ?_ nofun
        cases hfresh : fresh contents request with
        | error error => rfl
        | ok config =>
          by_cases hid : request.snapshot.id = ""
          · simp [insertOrGet, hid]
          · simp only [insertOrGet_eq hid hget, Prod.map_fst]
  simp only [fresh_eq_ok_iff] at hiff
  refine ⟨fun h => hiff.mpr fun key hkey config hget => ?_, hiff⟩
  obtain ⟨earlier, hmem, hid, hkey', hfresh⟩ := of_get_stateAfter hget
  obtain ⟨hstore, hsame⟩ := h earlier hmem hid
  obtain ⟨hendpoint, hfields⟩ := hsame (hkey'.trans hkey.symm)
  obtain ⟨hruntime, hmade⟩ := fresh_eq_ok_iff.mp hfresh
  rw [← hfields, ← hid, ← hstore, ← hendpoint]
  exact ⟨hruntime, hmade⟩

end

def onlyOne : Contents Unit Unit where
  runtimeIds _ _ := ⟨some 1, some 2, some 3, some 4, some 5⟩
  fields _ _ := .ok ()

def shopSelection : Selection :=
  .fast ⟨"shop", "default", some 0, .empty, "web", "HTTP", ⟨"10.0.0.1", 80, true⟩,
    "default/shop:80", ⟨"/", "PathPrefix"⟩⟩

/-- **A handle into the store of a snapshot that is gone**: the snapshot was replaced by one that
this thread never served from, and that one by its predecessor once more. -/
theorem rolled_back_handle : ((selectedBackendConfigCached onlyOne ⟨⟨"v1", 2⟩, shopSelection⟩
        (stateAfter onlyOne [⟨⟨"v1", 0⟩, shopSelection⟩])).1.toOption.map (·.runtime.store),
      (fresh onlyOne ⟨⟨"v1", 2⟩, shopSelection⟩).toOption.map (·.runtime.store))
      = (some 0, some 2) := by
  decide +kernel

end NantianGateway.Http.SelectedBackendConfigCache
