import NantianGateway.Http.CacheHistory
import NantianGateway.Http.ResponseProtocol

/-!
# What the cache serves

**A hit is written from whatever stands under the key.**  The entry is written when an exchange is
over, however it ended, the key does not say the method, and the header is stored after the origin,
the session and the fields of plugins have been written into it.
-/

namespace NantianGateway.Http

open Text Option

variable {C : Type}

/-! ## Freshness -/

def Hit.Fresh (hit : Hit C) : Prop := hit.now ≤ hit.stored.entry.info.freshUntil

def ResponseCall.freshUntil (proxy : ResponseProxy) (call : ResponseCall C) : Option ℕ :=
  (editedHeader proxy call.env call.upstream call.ctx).map fun header =>
    call.env.judgedAt + proxy.lib.lifetime (proxy.lib.cacheControl header.headers) header
      (freshDurationForStatus call.env.defaultTtlSecs header.status)

/-- The fill that an event completes: the key of the exchange that ends, and until when its response
stays fresh, by the time it was judged and the lifetime it was given. -/
def CacheWorld.fill (proxy : ResponseProxy) (world : CacheWorld C) :
    CacheEvent C → Option (CacheKey × ℕ)
  | .finish id _ env => (world.exchanges id).bind fun x =>
      (completeCache env x.ctx).bind fun entry =>
        (x.call.bind fun call => call.freshUntil proxy).map fun limit => (entry.1, limit)
  | _ => none

/-- Until when the response of the last completed fill of each key stays fresh, for the keys that
were not evicted since; read off the events, whatever the store holds. -/
def freshTimes (options : ProxyOptions) (proxy : ResponseProxy)
    (post : C → List UInt8 → Option (List UInt8)) (history : List (CacheEvent C)) :
    CacheWorld C × Table CacheKey ℕ :=
  history.foldl (fun out event =>
    (out.1.step options proxy post event,
      match event, out.1.fill proxy event with
      | .evict key, _ => out.2.erase key
      | _, some (key, limit) => out.2.insert key limit
      | _, none => out.2)) ({}, .empty)

section

variable {options : ProxyOptions} {proxy : ResponseProxy}
  {post : C → List UInt8 → Option (List UInt8)} {log : List (Incident C)} {stored : Stored C}
  {key : CacheKey} {ctx : ResponseContext C}

theorem completeCache_eq_some {env : LoggingEnv} {entry : CacheEntry}
    (h : completeCache env ctx = some (key, entry)) :
    ∃ cache, ctx.httpCache = some cache ∧ cache.key = key ∧ cache.filling = some entry.info ∧
      (env.writeFailsAt = none → entry.body = ctx.cachedResponseBody) := by
  rw [completeCache] at h
  cases hcache : ctx.httpCache with
  | none =>
    rw [hcache] at h
    cases h
  | some cache =>
    rw [hcache] at h
    dsimp only at h
    cases hfill : cache.filling with
    | none =>
      rw [hfill] at h
      cases h
    | some accepted =>
      rw [hfill] at h
      dsimp only at h
      split at h
      · cases h
      · obtain ⟨rfl, rfl⟩ := Prod.mk.inj (Option.some.inj h)
        exact ⟨cache, rfl, rfl, hfill, fun hwritten => by rw [hwritten]⟩

/-- **Where an entry comes from**: a call of the response filter delivered a header and accepted
it, under the key that its request looked up. -/
theorem Stored.Good.exists_call (h : stored.Good proxy key log) :
    ∃ call header, stored.source.exchange.call = some call ∧
      stored.source.exchange.header = some header ∧
      editedHeader proxy call.env call.upstream call.ctx = some header ∧
      judge proxy call.env call.ctx header = some stored.entry.info := by
  obtain ⟨cache, hcache, -, hfill, -⟩ := completeCache_eq_some h.complete
  exact h.source.filling cache _ hcache hfill

theorem freshUntil_of_judge {env : ResponseEnv} {header : ResponseHeader} {accepted : CacheMeta}
    (h : judge proxy env ctx header = some accepted) :
    accepted.freshUntil = env.judgedAt + proxy.lib.lifetime
      (proxy.lib.cacheControl header.headers) header
        (freshDurationForStatus env.defaultTtlSecs header.status) ∧
    accepted.header = proxy.lib.storedHeader (proxy.lib.cacheControl header.headers) header := by
  rw [judge, CacheLibrary.respCacheable] at h
  split at h
  · obtain rfl := Option.some.inj h
    exact ⟨rfl, rfl⟩
  · cases h

theorem Exchange.Good.freshUntil_eq {x : Exchange C} (h : x.Good proxy) {env : LoggingEnv}
    {entry : CacheEntry} (hcomplete : completeCache env x.ctx = some (key, entry)) :
    (x.call.bind fun call => call.freshUntil proxy) = some entry.info.freshUntil := by
  obtain ⟨cache, hcache, -, hfilling, -⟩ := completeCache_eq_some hcomplete
  obtain ⟨call, header, hcall, -, hedited, hjudge⟩ := h.filling cache _ hcache hfilling
  rw [hcall, bind_some, ResponseCall.freshUntil, hedited, map_some,
    ← (freshUntil_of_judge hjudge).1]

/-- The times that a store holds. -/
def CacheWorld.times (world : CacheWorld C) : Table CacheKey ℕ :=
  fun key => (world.store key).map fun stored => stored.entry.info.freshUntil

theorem times_proceed (world : CacheWorld C) (id : ℕ) (f : Exchange C → Exchange C) :
    (world.proceed id f).times = world.times := by
  rw [CacheWorld.proceed]
  split <;> rfl

/-- **The store holds, for every key, the last completed fill.** -/
theorem freshTimes_eq (options : ProxyOptions) (proxy : ResponseProxy)
    (post : C → List UInt8 → Option (List UInt8)) (history : List (CacheEvent C)) :
    freshTimes options proxy post history = ((cacheMachine options proxy post).run {} history,
      ((cacheMachine options proxy post).run {} history).times) := by
  induction history using List.reverseRecOn with
  | nil => rfl
  | append_singleton history event ih =>
    have hgood := @good_run C options proxy post history
    rw [Machine.run_concat, freshTimes, List.foldl_concat, ← freshTimes, ih]
    generalize (cacheMachine options proxy post).run {} history = world at hgood
    refine Prod.ext rfl ?_
    cases event with
    | arrive id o selections brought lookup =>
      dsimp only [cacheMachine, CacheWorld.step, CacheWorld.fill]
      split <;> rfl
    | finish id aborted env =>
      dsimp only [cacheMachine, CacheWorld.step, CacheWorld.fill, CacheWorld.ending]
      cases hx : world.exchanges id with
      | none => rfl
      | some x =>
        rw [bind_some, map_some]
        dsimp only [CacheWorld.conclude]
        cases hcomplete : completeCache env x.ctx with
        | none => rfl
        | some pair =>
          have hlimit := (hgood.exchanges id x hx).freshUntil_eq hcomplete
          rw [bind_some, hlimit, map_some]
          funext key
          dsimp only [CacheWorld.times]
          rw [Table.insert_apply, Table.insert_apply]
          split <;> rfl
    | evict key =>
      funext key'
      dsimp only [cacheMachine, CacheWorld.step, CacheWorld.times, Table.erase]
      split <;> rfl
    | _ => exact (times_proceed ..).symm

end

/-- **When hits are fresh**: exactly if no lookup comes after the response of the last completed
fill of its key has ceased to be fresh, unless the key was evicted since.  The lookup itself does
not compare the two times. -/
theorem fresh_hits_iff (options : ProxyOptions) (proxy : ResponseProxy)
    (post : C → List UInt8 → Option (List UInt8)) (history : List (CacheEvent C)) :
    (∀ hit ∈ hits ((cacheMachine options proxy post).log {} history), hit.Fresh) ↔
      ∀ past id o selections brought lookup future,
        history = past ++ .arrive id o selections brought lookup :: future →
        lookup.fails = false → ∀ cache limit,
          (forwardedContext options proxy.lib o selections brought).httpCache = some cache →
          (freshTimes options proxy post past).2 cache.key = some limit → lookup.now ≤ limit := by
  constructor
  · intro h past id o selections brought lookup future hhistory hfails cache limit hcache hlimit
    rw [freshTimes_eq] at hlimit
    obtain ⟨stored, hstored, rfl⟩ := map_eq_some_iff.mp hlimit
    have hemit := (@emit_eq_hit_iff C options proxy post _
      (.arrive id o selections brought lookup)
      ⟨brought, cache.key, lookup.now, lookup.readUntil, stored⟩).mpr
        ⟨id, o, selections, lookup, rfl, rfl, rfl,
          found_eq_some_iff.mpr ⟨hfails, ⟨cache, hcache, rfl⟩, hstored⟩⟩
    exact h _ (mem_hits_iff.mpr (Machine.mem_log_iff.mpr ⟨past, _, future, hhistory, hemit⟩))
  · intro h hit hhit
    obtain ⟨past, event, future, hhistory, hemit⟩ := Machine.mem_log_iff.mp (mem_hits_iff.mp hhit)
    obtain ⟨id, o, selections, lookup, rfl, hnow, -, hfound⟩ := emit_eq_hit_iff.mp hemit
    obtain ⟨hfails, ⟨cache, hcache, hkey⟩, hstored⟩ := found_eq_some_iff.mp hfound
    rw [Hit.Fresh, hnow]
    refine h past id o selections hit.request lookup future hhistory hfails cache _ hcache ?_
    rw [freshTimes_eq, hkey]
    dsimp only [CacheWorld.times]
    rw [hstored, map_some]

private def webArrival (id : ℕ) (brought : Brought Unit) (lookup : CacheLookup) : CacheEvent Unit :=
  .arrive id {} (webSelections brought.headers) brought lookup

private def plainMachine (proxy : ResponseProxy) :
    Machine (CacheWorld Unit) (CacheEvent Unit) (Incident Unit) :=
  cacheMachine {} proxy fun _ body => some body

private def webRoute (filters : List Filter) : SelectedHttpRoute :=
  { plainRoute with
    routeName := "web"
    listenerName := "http"
    listenerProtocol := "HTTP"
    filters := filters
    matchedHttpPath := { path := "/", pathType := "PathPrefix" }
    backend := some { address := "10.0.0.1", port := 8080, healthy := true }
    backendName := some "default/app:8080" }

private def lateHistory : List (CacheEvent Unit) :=
  [webArrival 0 {} {}, .respond 0 {} ⟨200, []⟩, .receive 0 (some [1]) true, .finish 0 false {},
    webArrival 1 {} { now := 100 }]

/-- **A hit after the end of the lifetime.** -/
theorem stale_hit : (hits ((plainMachine plainProxy).log {} lateHistory)).map
      (fun hit => (hit.now, hit.stored.entry.info.freshUntil)) = [(100, 60)] ∧
    ¬ ∀ hit ∈ hits ((plainMachine plainProxy).log {} lateHistory), hit.Fresh := by
  have hhits : (hits ((plainMachine plainProxy).log {} lateHistory)).map
      (fun hit => (hit.now, hit.stored.entry.info.freshUntil)) = [(100, 60)] := by
    decide +kernel
  refine ⟨hhits, fun h => ?_⟩
  have hmem : (100, 60) ∈ (hits ((plainMachine plainProxy).log {} lateHistory)).map
      (fun hit => (hit.now, hit.stored.entry.info.freshUntil)) := by
    rw [hhits]
    exact List.mem_singleton_self _
  obtain ⟨hit, hhit, htimes⟩ := List.mem_map.mp hmem
  have hfresh := h hit hhit
  rw [Hit.Fresh, (Prod.mk.inj htimes).1, (Prod.mk.inj htimes).2] at hfresh
  omega

/-! ## Fidelity -/

def isGet (method : String) : Bool := eqIgnoreAsciiCase method "GET"

def Ending.Delivers (ending : Ending C) (key : CacheKey) (status : ℕ) (body : List UInt8) : Prop :=
  isGet ending.exchange.request.view.method = true ∧
    (ending.exchange.ended = true ∧ ending.aborted = false) ∧
    ending.exchange.start.httpCache.map (fun cache => cache.key) = some key ∧
    ending.exchange.header.map (fun header => header.status) = some status ∧
    ending.exchange.body = body

instance (ending : Ending C) (key : CacheKey) (status : ℕ) (body : List UInt8) :
    Decidable (ending.Delivers key status body) :=
  inferInstanceAs (Decidable (_ ∧ _))

/-- **A hit for a `GET` is one complete response to an earlier `GET` with the same key.** -/
def Faithful (log : List (Incident C)) (hit : Hit C) : Prop :=
  isGet hit.request.view.method = true →
    ∃ ending ∈ endings log, ending.Delivers hit.key hit.header.status hit.body

instance (log : List (Incident C)) (hit : Hit C) : Decidable (Faithful log hit) :=
  inferInstanceAs (Decidable (_ → _))

/-- The entry was filled by a `GET` that came to its end without an error and was not
post-processed; it was written whole, and it is read whole. -/
structure Hit.Clean (proxy : ResponseProxy) (hit : Hit C) : Prop where
  get : isGet hit.stored.source.exchange.request.view.method = true
  ended : hit.stored.source.exchange.ended = true
  completed : hit.stored.source.aborted = false
  plain : aiPostProcessActive proxy hit.stored.source.exchange.start = false
  written : hit.stored.source.env.writeFailsAt = none
  read : hit.readUntil = none

instance (proxy : ResponseProxy) (hit : Hit C) : Decidable (hit.Clean proxy) :=
  decidable_of_iff (isGet hit.stored.source.exchange.request.view.method = true ∧
      hit.stored.source.exchange.ended = true ∧ hit.stored.source.aborted = false ∧
      aiPostProcessActive proxy hit.stored.source.exchange.start = false ∧
      hit.stored.source.env.writeFailsAt = none ∧ hit.readUntil = none)
    ⟨fun h => ⟨h.1, h.2.1, h.2.2.1, h.2.2.2.1, h.2.2.2.2.1, h.2.2.2.2.2⟩,
      fun h => ⟨h.get, h.ended, h.completed, h.plain, h.written, h.read⟩⟩

variable {log : List (Incident C)} {stored : Stored C} {key : CacheKey}

theorem Stored.Good.status_eq {proxy : ResponseProxy} (h : stored.Good proxy key log) :
    stored.source.exchange.header.map (fun header => header.status)
      = some stored.entry.info.header.status := by
  obtain ⟨call, header, -, hheader, -, hjudge⟩ := h.exists_call
  rw [hheader, map_some, (freshUntil_of_judge hjudge).2, proxy.lib.status_storedHeader]

/-- **When hits are faithful.**  What a hit writes for a `GET` is the response to an earlier `GET`,
if that one ended without an error, was not post-processed, and was written and read whole. -/
theorem faithful_of_clean (options : ProxyOptions) (proxy : ResponseProxy)
    (post : C → List UInt8 → Option (List UInt8)) (history : List (CacheEvent C))
    (event : CacheEvent C) (hit : Hit C)
    (h : (cacheMachine options proxy post).emit
      ((cacheMachine options proxy post).run {} history) event = some (.hit hit))
    (hclean : hit.Clean proxy) :
    Faithful ((cacheMachine options proxy post).log {} history) hit := by
  have hgood := good_of_hit h
  obtain ⟨cache, hcache, hkey, -, hbody⟩ := completeCache_eq_some hgood.complete
  intro _
  refine ⟨hit.stored.source, mem_endings_iff.mpr hgood.ended, hclean.get,
    ⟨hclean.ended, hclean.completed⟩, ?_, hgood.status_eq, ?_⟩
  · rw [hgood.source.key cache hcache, map_some, hkey]
  · have hbuffer := (hgood.source.buffer hclean.plain).2 (by rw [hcache]; rfl)
    rw [Hit.body, hclean.read, hbody hclean.written, hbuffer]

private def webGet : CacheEvent Unit := webArrival 1 {} {}

variable (proxy : ResponseProxy)

private def servedNext (history : List (CacheEvent Unit))
    (event : CacheEvent Unit) : Option (ℕ × List UInt8 × Bool) :=
  (((plainMachine proxy).emit ((plainMachine proxy).run {} history) event).bind
    Incident.hit?).map fun hit =>
      (hit.header.status, hit.body, decide (Faithful ((plainMachine proxy).log {} history) hit))

/-- An exchange that begins with this request: a body in one chunk, at the end of which it ends. -/
private def exchange (arrival : CacheEvent Unit) (chunk : Option (List UInt8)) (whole : Bool) :
    List (CacheEvent Unit) :=
  [arrival, .respond 0 {} ⟨200, []⟩, .receive 0 chunk whole, .finish 0 (!whole) {}]

private def filteredArrival (filters : List Filter) (id : ℕ) (brought : Brought Unit) :
    CacheEvent Unit :=
  .arrive id {} ⟨none, none, some (webRoute filters), none⟩ brought {}

/-- **Responses that no `GET` was ever given**: the empty body of a `HEAD`, the first byte of a body
whose upstream failed, and nothing of a body that the AI gateway has rewritten. -/
theorem unfaithful_hits :
    servedNext plainProxy (exchange (webArrival 0 { view := { method := "HEAD" } } {}) none true)
      webGet = some (200, [], false) ∧
    servedNext plainProxy (exchange (webArrival 0 {} {}) (some [1]) false) webGet
      = some (200, [1], false) ∧
    servedNext { plainProxy with aiFilter := true }
      (exchange (filteredArrival [] 0 { aiContext := some () }) (some [1, 2]) true) webGet
        = some (200, [], false) := by
  refine ⟨by decide +kernel, by decide +kernel, by decide +kernel⟩

theorem faithful_get :
    ∃ hit, (plainMachine plainProxy).emit
        ((plainMachine plainProxy).run {} (exchange (webArrival 0 {} {}) (some [1]) true)) webGet
          = some (.hit hit) ∧
      hit.Clean plainProxy ∧ hit.body = [1] ∧
      Faithful ((plainMachine plainProxy).log {} (exchange (webArrival 0 {} {}) (some [1]) true))
        hit := by
  obtain ⟨hit, hhit, hfacts⟩ := exists_hit_of_any (by decide +kernel :
    (((plainMachine plainProxy).emit
      ((plainMachine plainProxy).run {} (exchange (webArrival 0 {} {}) (some [1]) true))
        webGet).bind Incident.hit?).any (fun hit =>
          decide (hit.Clean plainProxy ∧ hit.body = [1])) = true)
  obtain ⟨hclean, hbody⟩ := of_decide_eq_true hfacts
  exact ⟨hit, hhit, hclean, hbody,
    faithful_of_clean {} plainProxy _ (exchange (webArrival 0 {} {}) (some [1]) true) webGet hit
      hhit hclean⟩

/-! ## Clients -/

/-- The filters that apply to a response: those of the backend that is selected, if the path
selects one for the response. -/
def ResponseCall.filters (call : ResponseCall C) : Option (List Filter) :=
  call.ctx.selectedBackend.map fun selected => selected.filters

def editForRoute (headers : HeaderMap) : Option (List Filter) → Option HeaderMap
  | none => some headers
  | some filters => applyResponseFilters headers filters none none

def sharedHeader (upstream : ResponseHeader)
    (filters : Option (List Filter)) : Option ResponseHeader :=
  (editForRoute upstream.headers filters).map fun headers =>
    proxy.lib.storedHeader (proxy.lib.cacheControl headers) ⟨upstream.status, headers⟩

/-- Nothing is written into the header for the client: no origin, no session, no field that a
plugin has computed from the request. -/
structure ResponseCall.Impersonal (proxy : ResponseProxy) (call : ResponseCall C) : Prop where
  origin : ∀ filters, call.filters = some filters → ∀ filter ∈ filters, ¬ EffectiveCors filter
  session : ∀ selected, call.ctx.selectedBackend = some selected →
    selected.sessionPersistence = none
  onRequest : call.ctx.wasmResponseHeaders.entries = []
  onResponse : ∀ fields, onResponseOutcome proxy call.env = .ok fields → fields.entries = []

/-- The exchange that filled the entry was given nothing of its own. -/
def Hit.Impersonal (hit : Hit C) : Prop :=
  ∀ call, hit.stored.source.exchange.call = some call → call.Impersonal proxy

/-- **The header does not depend on the client that filled the entry**, only on the response of the
upstream and the filters of the route. -/
def Impartial (hit hit' : Hit C) : Prop :=
  ∀ call call', hit.stored.source.exchange.call = some call →
    hit'.stored.source.exchange.call = some call' →
    call.upstream = call'.upstream → call.filters = call'.filters → hit.header = hit'.header

section

variable {proxy : ResponseProxy} {call : ResponseCall C}

theorem applyPluginHeaders_of_nil {order : HashOrder} {headers : HeaderMap}
    {fields : BTreeMap String} (h : fields.entries = []) :
    applyPluginHeaders order headers fields = some headers := by
  rw [applyPluginHeaders, h, (order.perm []).eq_nil]
  rfl

theorem editForPlugins_of_impersonal (h : call.Impersonal proxy) (headers : HeaderMap) :
    editForPlugins proxy call.env call.ctx headers = some headers := by
  rw [editForPlugins, applyPluginHeaders_of_nil h.onRequest]
  cases houtcome : onResponseOutcome proxy call.env with
  | error e => rfl
  | ok fields => exact applyPluginHeaders_of_nil (h.onResponse fields houtcome)

theorem editForBackend_of_impersonal (h : call.Impersonal proxy) (headers : HeaderMap) :
    editForBackend proxy call.env call.ctx headers = editForRoute headers call.filters := by
  have horigin := h.origin
  unfold editForBackend
  rw [ResponseCall.filters] at horigin ⊢
  cases hselected : call.ctx.selectedBackend with
  | none => rfl
  | some selected =>
    rw [hselected] at horigin
    dsimp only [map_some]
    rw [h.session selected hselected,
      applyResponseFilters_eq_plain (horigin selected.filters rfl), editForRoute]
    cases applyResponseFilters headers selected.filters none none with
    | none => rfl
    | some headers => rfl

/-- **The header of an entry that nothing personal went into** is the header that the route gives
to everybody. -/
theorem Stored.Good.header_of_impersonal (h : stored.Good proxy key log)
    (hcall : stored.source.exchange.call = some call) (himpersonal : call.Impersonal proxy) :
    sharedHeader proxy call.upstream call.filters = some stored.entry.info.header := by
  obtain ⟨call', header, hcall', -, hedited, hjudge⟩ := h.exists_call
  obtain rfl := Option.some.inj (hcall.symm.trans hcall')
  rw [editedHeader] at hedited
  split at hedited
  · cases hedited
  · obtain ⟨headers, hheaders, rfl⟩ := map_eq_some_iff.mp hedited
    obtain ⟨headers', hbackend, hplugins⟩ := bind_eq_some_iff.mp hheaders
    rw [editForPlugins_of_impersonal himpersonal] at hplugins
    obtain rfl := Option.some.inj hplugins
    rw [editForBackend_of_impersonal himpersonal] at hbackend
    rw [sharedHeader, hbackend, map_some, (freshUntil_of_judge hjudge).2]

end

/-- **When cached headers carry nothing of a client**: if nothing was written into them for the
clients that filled the entries, they are the same for the same response and filters. -/
theorem cached_headers_impartial (options : ProxyOptions) (proxy : ResponseProxy)
    (post : C → List UInt8 → Option (List UInt8)) (history history' : List (CacheEvent C))
    (event event' : CacheEvent C) (hit hit' : Hit C)
    (h : (cacheMachine options proxy post).emit
      ((cacheMachine options proxy post).run {} history) event = some (.hit hit))
    (h' : (cacheMachine options proxy post).emit
      ((cacheMachine options proxy post).run {} history') event' = some (.hit hit'))
    (himpersonal : hit.Impersonal proxy) (himpersonal' : hit'.Impersonal proxy) :
    Impartial hit hit' ∧
      ∃ call, hit.stored.source.exchange.call = some call ∧
        sharedHeader proxy call.upstream call.filters = some hit.header := by
  have hgood := good_of_hit h
  have hgood' := good_of_hit h'
  constructor
  · intro call call' hcall hcall' hupstream hfilters
    have hheader := hgood.header_of_impersonal hcall (himpersonal call hcall)
    have hheader' := hgood'.header_of_impersonal hcall' (himpersonal' call' hcall')
    rw [hupstream, hfilters, hheader'] at hheader
    exact (Option.some.inj hheader).symm
  · obtain ⟨call, -, hcall, -⟩ := hgood.exists_call
    exact ⟨call, hcall, hgood.header_of_impersonal hcall (himpersonal call hcall)⟩

private def corsFilter : Filter where
  filterType := "CORS"
  cors := some { allowOrigins := ["*"], allowCredentials := true }

private def alice : Brought Unit := { headers := [("origin", valueBytes "https://a.example")] }

private def servedAfter (arrival next : CacheEvent Unit) : Option (Incident Unit) :=
  (plainMachine plainProxy).emit
    ((plainMachine plainProxy).run {} (exchange arrival (some [1]) true)) next

private def madeOf (filters : Option (List Filter)) (hit : Hit Unit) : Bool :=
  hit.stored.source.exchange.call.any fun call =>
    decide (call.upstream = ⟨200, []⟩ ∧ call.filters = filters ∧
      call.ctx.wasmResponseHeaders.entries = [])

private theorem exists_of_madeOf {filters : Option (List Filter)} {hit : Hit Unit}
    (h : madeOf filters hit = true) :
    ∃ call, hit.stored.source.exchange.call = some call ∧ call.upstream = ⟨200, []⟩ ∧
      call.filters = filters ∧ call.ctx.wasmResponseHeaders.entries = [] := by
  rw [madeOf] at h
  cases hcall : hit.stored.source.exchange.call with
  | none =>
    rw [hcall] at h
    cases h
  | some call =>
    rw [hcall, any_some, decide_eq_true_eq] at h
    exact ⟨call, rfl, h⟩

/-- **The origin of the client that filled the entry is served to the next one**, which has none. -/
theorem origin_of_filler_served :
    ∃ hit hit',
      servedAfter (filteredArrival [corsFilter] 0 alice) (filteredArrival [corsFilter] 1 {})
        = some (.hit hit) ∧
      servedAfter (filteredArrival [corsFilter] 0 {}) (filteredArrival [corsFilter] 1 {})
        = some (.hit hit') ∧
      hit.header.headers.get "access-control-allow-origin" = some (valueBytes "https://a.example") ∧
      hit'.header.headers.get "access-control-allow-origin" = none ∧
      ¬ Impartial hit hit' := by
  obtain ⟨hit, hhit, hfacts⟩ := exists_hit_of_any (by decide +kernel :
    ((servedAfter (filteredArrival [corsFilter] 0 alice) (filteredArrival [corsFilter] 1 {})).bind
      Incident.hit?).any (fun hit => decide (madeOf (some [corsFilter]) hit = true ∧
        hit.header.headers.get "access-control-allow-origin"
          = some (valueBytes "https://a.example"))) = true)
  obtain ⟨hit', hhit', hfacts'⟩ := exists_hit_of_any (by decide +kernel :
    ((servedAfter (filteredArrival [corsFilter] 0 {}) (filteredArrival [corsFilter] 1 {})).bind
      Incident.hit?).any (fun hit => decide (madeOf (some [corsFilter]) hit = true ∧
        hit.header.headers.get "access-control-allow-origin" = none)) = true)
  obtain ⟨hmade, horigin⟩ := of_decide_eq_true hfacts
  obtain ⟨hmade', horigin'⟩ := of_decide_eq_true hfacts'
  refine ⟨hit, hit', hhit, hhit', horigin, horigin', fun hfair => ?_⟩
  obtain ⟨call, hcall, hupstream, hfilters, -⟩ := exists_of_madeOf hmade
  obtain ⟨call', hcall', hupstream', hfilters', -⟩ := exists_of_madeOf hmade'
  rw [hfair call call' hcall hcall' (hupstream.trans hupstream'.symm)
    (hfilters.trans hfilters'.symm), horigin'] at horigin
  cases horigin

private theorem impersonal_of_madeOf {hit : Hit Unit} (h : madeOf none hit = true) :
    hit.Impersonal plainProxy := by
  intro call hcall
  obtain ⟨call', hcall', -, hfilters, hfields⟩ := exists_of_madeOf h
  obtain rfl := Option.some.inj (hcall.symm.trans hcall')
  have hselected : call.ctx.selectedBackend = none := map_eq_none_iff.mp hfilters
  refine ⟨fun filters hsome => ?_, fun selected hsome => ?_, hfields, fun fields houtcome => ?_⟩
  · rw [hfilters] at hsome
    cases hsome
  · rw [hselected] at hsome
    cases hsome
  · obtain rfl := Except.ok.inj houtcome
    rfl

theorem header_without_filters_impartial :
    ∃ hit hit', servedAfter (webArrival 0 alice {}) webGet = some (.hit hit) ∧
      servedAfter (webArrival 0 {} {}) webGet = some (.hit hit') ∧
      hit.Impersonal plainProxy ∧ hit'.Impersonal plainProxy ∧
      Impartial hit hit' ∧
      ∃ call, hit.stored.source.exchange.call = some call ∧
        sharedHeader plainProxy call.upstream call.filters = some hit.header := by
  obtain ⟨hit, hhit, hmade⟩ := exists_hit_of_any (by decide +kernel :
    ((servedAfter (webArrival 0 alice {}) webGet).bind Incident.hit?).any (madeOf none) = true)
  obtain ⟨hit', hhit', hmade'⟩ := exists_hit_of_any (by decide +kernel :
    ((servedAfter (webArrival 0 {} {}) webGet).bind Incident.hit?).any (madeOf none) = true)
  have himpersonal := impersonal_of_madeOf hmade
  have himpersonal' := impersonal_of_madeOf hmade'
  exact ⟨hit, hit', hhit, hhit', himpersonal, himpersonal',
    cached_headers_impartial {} plainProxy _ _ _ _ _ hit hit' hhit hhit' himpersonal himpersonal'⟩

end NantianGateway.Http
