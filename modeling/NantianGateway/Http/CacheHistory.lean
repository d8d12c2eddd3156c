import NantianGateway.Http.AuthorizedResponses
import NantianGateway.Lib.Machines

/-!
# Histories of the response cache

A request looks an entry up, the response filter judges the response, the body filter collects the
body, and `logging` writes the entry; these are the events, of any number of exchanges in any order.
Over every history (`Exchange.Good`) an entry in the making stands under the key that was looked up,
what was accepted is the judgement on the delivered header, and without post-processing the buffer
is the delivered body.
-/

namespace NantianGateway.Http

open Text Option

variable {C : Type}

/-! ## Exchanges -/

structure ResponseCall (C : Type) where
  env : ResponseEnv
  upstream : ResponseHeader
  ctx : ResponseContext C

/-- An exchange under way: the context it began with and the one it has, and what the client has
got of the response. -/
structure Exchange (C : Type) where
  request : Brought C
  start : ResponseContext C
  ctx : ResponseContext C
  call : Option (ResponseCall C) := none
  header : Option ResponseHeader := none
  body : List UInt8 := []
  ended : Bool := false

/-- The end of an exchange, with an error or without. -/
structure Ending (C : Type) where
  exchange : Exchange C
  aborted : Bool
  env : LoggingEnv

structure Stored (C : Type) where
  entry : CacheEntry
  source : Ending C

/-- A response written by `try_cache_hit`: to whom, when, and from what.  `readUntil` is where
reading the entry failed, if it did. -/
structure Hit (C : Type) where
  request : Brought C
  key : CacheKey
  now : ℕ
  readUntil : Option ℕ
  stored : Stored C

def Hit.header (hit : Hit C) : ResponseHeader := hit.stored.entry.info.header

/-- The body that a hit writes; an error of the reader ends it like its end. -/
def Hit.body (hit : Hit C) : List UInt8 :=
  match hit.readUntil with
  | none => hit.stored.entry.body.flatten
  | some count => hit.stored.entry.body.flatten.take count

inductive Incident (C : Type) where
  | ended (ending : Ending C)
  | hit (hit : Hit C)

def Incident.ended? : Incident C → Option (Ending C)
  | .ended ending => some ending
  | .hit _ => none

def Incident.hit? : Incident C → Option (Hit C)
  | .ended _ => none
  | .hit served => some served

def endings (log : List (Incident C)) : List (Ending C) := log.filterMap Incident.ended?

def hits (log : List (Incident C)) : List (Hit C) := log.filterMap Incident.hit?

variable {incident : Incident C} {hit : Hit C}

theorem Incident.hit?_eq_some_iff : incident.hit? = some hit ↔ incident = .hit hit := by
  cases incident <;> simp [Incident.hit?]

theorem exists_hit_of_any {incident : Option (Incident C)} {p : Hit C → Bool}
    (h : (incident.bind Incident.hit?).any p = true) :
    ∃ hit, incident = some (.hit hit) ∧ p hit = true := by
  cases incident with
  | none => cases h
  | some incident =>
    cases incident with
    | ended ending => cases h
    | hit hit => exact ⟨hit, rfl, h⟩

theorem Incident.ended?_eq_some_iff {ending : Ending C} :
    incident.ended? = some ending ↔ incident = .ended ending := by
  cases incident <;> simp [Incident.ended?]

variable {log : List (Incident C)}

theorem mem_hits_iff : hit ∈ hits log ↔ .hit hit ∈ log := by
  simp only [hits, List.mem_filterMap, Incident.hit?_eq_some_iff, exists_eq_right]

theorem mem_endings_iff {ending : Ending C} : ending ∈ endings log ↔ .ended ending ∈ log := by
  simp only [endings, List.mem_filterMap, Incident.ended?_eq_some_iff, exists_eq_right]

section

variable (proxy : ResponseProxy) (post : C → List UInt8 → Option (List UInt8))

def Exchange.reselect (choice : SelectedBackend × Option ResolvedSession) (x : Exchange C) :
    Exchange C :=
  { x with ctx := keepSelection x.request.headers x.ctx choice }

def Exchange.respond (env : ResponseEnv) (upstream : ResponseHeader) (x : Exchange C) :
    Exchange C :=
  match responseFilter proxy env upstream x.ctx with
  | (none, ctx) => { x with ctx := ctx }
  | (some header, ctx) =>
    { x with ctx := ctx, call := some ⟨env, upstream, x.ctx⟩, header := some header }

def Exchange.receive (chunk : Option (List UInt8)) (endOfStream : Bool) (x : Exchange C) :
    Exchange C :=
  let out := responseBodyFilter proxy post chunk endOfStream x.ctx
  { x with
    ctx := out.ctx
    body := x.body ++ out.body.getD []
    ended := x.ended || endOfStream }

end

/-! ## The machine -/

/-- What a lookup gets from outside: the time, whether the library fails, and where reading a
found entry fails. -/
structure CacheLookup where
  now : ℕ := 0
  fails : Bool := false
  readUntil : Option ℕ := none

/-- The moments of the cache.  `arrive` is a request that its path has taken to the lookup, or
past it if the path has none. -/
inductive CacheEvent (C : Type) where
  | arrive (id : ℕ) (o : Outcomes) (selections : Selections) (brought : Brought C)
      (lookup : CacheLookup)
  | retry (id : ℕ) (choice : SelectedBackend × Option ResolvedSession)
  | respond (id : ℕ) (env : ResponseEnv) (upstream : ResponseHeader)
  | receive (id : ℕ) (chunk : Option (List UInt8)) (endOfStream : Bool)
  | finish (id : ℕ) (aborted : Bool) (env : LoggingEnv)
  | evict (key : CacheKey)

structure CacheWorld (C : Type) where
  store : Table CacheKey (Stored C) := .empty
  exchanges : Table ℕ (Exchange C) := .empty

def CacheWorld.found (world : CacheWorld C) (ctx : ResponseContext C) (lookup : CacheLookup) :
    Option (CacheKey × Stored C) :=
  if lookup.fails then none
  else ctx.httpCache.bind fun cache => (world.store cache.key).map fun stored => (cache.key, stored)

def CacheWorld.proceed (world : CacheWorld C) (id : ℕ) (f : Exchange C → Exchange C) :
    CacheWorld C :=
  match world.exchanges id with
  | none => world
  | some x => { world with exchanges := world.exchanges.insert id (f x) }

/-- `logging`: the exchange is over, and its entry is stored if there is one. -/
def CacheWorld.conclude (world : CacheWorld C) (id : ℕ) (ending : Ending C) : CacheWorld C where
  exchanges := world.exchanges.erase id
  store :=
    match completeCache ending.env ending.exchange.ctx with
    | none => world.store
    | some (key, entry) => world.store.insert key ⟨entry, ending⟩

def CacheWorld.ending (world : CacheWorld C) (id : ℕ) (aborted : Bool) (env : LoggingEnv) :
    Option (Ending C) :=
  (world.exchanges id).map fun x => ⟨x, aborted, env⟩

section

variable (options : ProxyOptions) (proxy : ResponseProxy)
  (post : C → List UInt8 → Option (List UInt8))

def CacheWorld.step (world : CacheWorld C) : CacheEvent C → CacheWorld C
  | .arrive id o selections brought lookup =>
    let ctx := forwardedContext options proxy.lib o selections brought
    match world.found ctx lookup with
    | some _ => world
    | none =>
      { world with
        exchanges :=
          world.exchanges.insert id { request := brought, start := ctx, ctx := ctx } }
  | .retry id choice => world.proceed id (Exchange.reselect choice)
  | .respond id env upstream => world.proceed id (Exchange.respond proxy env upstream)
  | .receive id chunk endOfStream =>
    world.proceed id (Exchange.receive proxy post chunk endOfStream)
  | .finish id aborted env =>
    match world.ending id aborted env with
    | none => world
    | some ending => world.conclude id ending
  | .evict key => { world with store := world.store.erase key }

def CacheWorld.emit (world : CacheWorld C) : CacheEvent C → Option (Incident C)
  | .arrive _ o selections brought lookup =>
    (world.found (forwardedContext options proxy.lib o selections brought) lookup).map
      fun entry => .hit ⟨brought, entry.1, lookup.now, lookup.readUntil, entry.2⟩
  | .finish id aborted env => (world.ending id aborted env).map .ended
  | _ => none

def cacheMachine : Machine (CacheWorld C) (CacheEvent C) (Incident C) where
  step := CacheWorld.step options proxy post
  emit := CacheWorld.emit options proxy

end

/-! ## What holds of an exchange -/

section

variable {options : ProxyOptions} {proxy : ResponseProxy}
  {post : C → List UInt8 → Option (List UInt8)}

variable (proxy) in
structure Exchange.Good (x : Exchange C) : Prop where
  key : ∀ cache, x.ctx.httpCache = some cache → x.start.httpCache = some { key := cache.key }
  filling : ∀ cache accepted, x.ctx.httpCache = some cache → cache.filling = some accepted →
    ∃ call header, x.call = some call ∧ x.header = some header ∧
      editedHeader proxy call.env call.upstream call.ctx = some header ∧
      judge proxy call.env call.ctx header = some accepted
  buffer : aiPostProcessActive proxy x.start = false → aiPostProcessActive proxy x.ctx = false ∧
    (x.ctx.httpCache.isSome = true → x.ctx.cachedResponseBody.flatten = x.body)

variable {cache : HttpCache} {x : Exchange C} {ctx : ResponseContext C}

theorem httpCache_forwardedContext {lib : CacheLibrary} {o : Outcomes} {selections : Selections}
    {brought : Brought C}
    (h : (forwardedContext options lib o selections brought).httpCache = some cache) :
    cache = { key := cache.key } := by
  rw [forwardedContext] at h
  obtain ⟨route, -, hkey⟩ := bind_eq_some_iff.mp h
  obtain ⟨key, -, rfl⟩ := map_eq_some_iff.mp hkey
  rfl

theorem good_begin (o : Outcomes) (selections : Selections) (brought : Brought C) :
    Exchange.Good proxy
      { request := brought
        start := forwardedContext options proxy.lib o selections brought
        ctx := forwardedContext options proxy.lib o selections brought } where
  key cache h := by rw [← httpCache_forwardedContext h]; exact h
  filling cache accepted h hfilling := by
    rw [httpCache_forwardedContext h] at hfilling
    cases hfilling
  buffer h := ⟨h, fun _ => rfl⟩

theorem Exchange.Good.reselect (h : x.Good proxy)
    (choice : SelectedBackend × Option ResolvedSession) : (x.reselect choice).Good proxy :=
  ⟨h.key, h.filling, h.buffer⟩

theorem Exchange.Good.respond (h : x.Good proxy) (env : ResponseEnv) (upstream : ResponseHeader) :
    (x.respond proxy env upstream).Good proxy := by
  rw [Exchange.respond]
  cases hedited : editedHeader proxy env upstream x.ctx with
  | none =>
    obtain ⟨fields, hfilter⟩ := responseFilter_of_not_edited proxy env hedited
    rw [hfilter]
    exact ⟨h.key, h.filling, h.buffer⟩
  | some header =>
    rw [responseFilter_of_edited proxy env hedited]
    -- whatever stands in the context now has just been judged
    have hfill : ∀ cache, fillCache proxy env x.ctx header = some cache →
        ∃ cache', x.ctx.httpCache = some cache' ∧ cache.key = cache'.key ∧
          judge proxy env x.ctx header = cache.filling := by
      intro cache hcache
      obtain ⟨cache', accepted, hcache', -, -, hjudge, rfl⟩ :=
        (fillCache_eq_some_iff proxy env).mp hcache
      exact ⟨cache', hcache', rfl, hjudge⟩
    refine ⟨fun cache hcache => ?_, fun cache accepted hcache hfilling => ?_, fun hst => ?_⟩
    · obtain ⟨cache', hcache', hkey, -⟩ := hfill cache hcache
      rw [hkey]
      exact h.key cache' hcache'
    · obtain ⟨-, -, -, hjudge⟩ := hfill cache hcache
      exact ⟨⟨env, upstream, x.ctx⟩, header, rfl, rfl, hedited, hjudge.trans hfilling⟩
    · refine ⟨(h.buffer hst).1, fun hsome => ?_⟩
      obtain ⟨cache, hcache⟩ := isSome_iff_exists.mp hsome
      obtain ⟨cache', hcache', -⟩ := hfill cache hcache
      exact (h.buffer hst).2 (by rw [hcache']; rfl)

theorem of_httpCache_bufferChunk {chunk : List UInt8}
    (h : (bufferChunk proxy ctx chunk).httpCache = some cache) :
    ctx.httpCache = some cache ∧
      (bufferChunk proxy ctx chunk).cachedResponseBody = ctx.cachedResponseBody ++ [chunk] := by
  rw [bufferChunk] at h ⊢
  split at h
  · cases h
  · rw [if_neg ‹_›]
    exact ⟨h, rfl⟩

theorem aiContext_bufferChunk (ctx : ResponseContext C) (chunk : List UInt8) :
    (bufferChunk proxy ctx chunk).aiContext = ctx.aiContext := by
  rw [bufferChunk]
  split
  · rfl
  · rfl

theorem keepChunk_snd (ctx : ResponseContext C) (chunk : List UInt8) :
    (keepChunk proxy ctx (some chunk)).2 = ctx ∨
      (keepChunk proxy ctx (some chunk)).2 = bufferChunk proxy ctx chunk := by
  rw [keepChunk]
  split
  · exact .inr rfl
  · exact .inl rfl

variable {chunk : Option (List UInt8)}

theorem httpCache_keepChunk (h : (keepChunk proxy ctx chunk).2.httpCache = some cache) :
    ctx.httpCache = some cache := by
  cases chunk with
  | none => exact h
  | some chunk =>
    rcases @keepChunk_snd C proxy ctx chunk with hkept | hkept
    · rw [hkept] at h
      exact h
    · rw [hkept] at h
      exact (of_httpCache_bufferChunk h).1

theorem httpCache_responseBodyFilter {endOfStream : Bool}
    (h : (responseBodyFilter proxy post chunk endOfStream ctx).ctx.httpCache = some cache) :
    ctx.httpCache = some cache := by
  unfold responseBodyFilter at h
  dsimp only at h
  split at h
  · exact httpCache_keepChunk h
  · exact httpCache_keepChunk h

theorem aiContext_keepChunk (ctx : ResponseContext C) (chunk : Option (List UInt8)) :
    (keepChunk proxy ctx chunk).2.aiContext = ctx.aiContext := by
  cases chunk with
  | none => rfl
  | some chunk =>
    rcases @keepChunk_snd C proxy ctx chunk with hkept | hkept
    · rw [hkept]
    · rw [hkept, aiContext_bufferChunk]

/-- **Without post-processing the body goes through**, and stays in the buffer as long as an entry
is in the making. -/
theorem responseBodyFilter_of_inactive (h : aiPostProcessActive proxy ctx = false)
    (chunk : Option (List UInt8)) (endOfStream : Bool) :
    let out := responseBodyFilter proxy post chunk endOfStream ctx
    out.body = chunk ∧ aiPostProcessActive proxy out.ctx = false ∧
      (out.ctx.httpCache.isSome = true → out.ctx.cachedResponseBody.flatten
        = ctx.cachedResponseBody.flatten ++ chunk.getD []) := by
  have hkept : (keepChunk proxy ctx chunk).1 = chunk ∧
      ((keepChunk proxy ctx chunk).2.httpCache.isSome = true →
        (keepChunk proxy ctx chunk).2.cachedResponseBody.flatten
          = ctx.cachedResponseBody.flatten ++ chunk.getD []) := by
    cases chunk with
    | none => exact ⟨rfl, fun _ => (List.append_nil _).symm⟩
    | some chunk =>
      rw [keepChunk, h, responseBodyFilterShouldBuffer, Bool.or_false]
      cases hcache : ctx.httpCache with
      | none =>
        refine ⟨rfl, fun hsome => ?_⟩
        have hnone : ctx.httpCache.isSome = true := hsome
        rw [hcache] at hnone
        cases hnone
      | some cache =>
        refine ⟨rfl, fun hsome => ?_⟩
        obtain ⟨cache', hcache'⟩ := isSome_iff_exists.mp hsome
        have hbuffer := (of_httpCache_bufferChunk hcache').2
        show (bufferChunk proxy ctx chunk).cachedResponseBody.flatten = _
        rw [hbuffer, List.flatten_append, List.flatten_singleton]
        rfl
  have hactive : aiPostProcessActive proxy (keepChunk proxy ctx chunk).2 = false := by
    rw [aiPostProcessActive, aiContext_keepChunk]
    exact h
  have hnone : (if endOfStream && proxy.aiFilter then (keepChunk proxy ctx chunk).2.aiContext
      else none) = none := by
    split
    next hend =>
      rw [aiPostProcessActive, (Bool.and_eq_true_iff.mp hend).2, Bool.true_and] at hactive
      exact isSome_eq_false_iff.mp hactive |> isNone_iff_eq_none.mp
    next => rfl
  unfold responseBodyFilter
  dsimp only
  rw [hnone]
  exact ⟨hkept.1, hactive, hkept.2⟩

theorem Exchange.Good.receive (h : x.Good proxy) (chunk : Option (List UInt8))
    (endOfStream : Bool) : (x.receive proxy post chunk endOfStream).Good proxy := by
  refine ⟨fun cache hcache => h.key cache (httpCache_responseBodyFilter hcache),
    fun cache accepted hcache => h.filling cache accepted (httpCache_responseBodyFilter hcache),
    fun hst => ?_⟩
  obtain ⟨hinactive, hbuffer⟩ := h.buffer hst
  have hout := @responseBodyFilter_of_inactive C proxy post x.ctx hinactive chunk endOfStream
  refine ⟨hout.2.1, fun hsome => ?_⟩
  obtain ⟨cache, hcache⟩ := isSome_iff_exists.mp hsome
  have hbefore := hbuffer (by rw [httpCache_responseBodyFilter hcache]; rfl)
  rw [Exchange.receive]
  dsimp only
  rw [hout.1, hout.2.2 hsome, hbefore]

end

/-! ## What holds over a history -/

section

variable {options : ProxyOptions} {proxy : ResponseProxy}
  {post : C → List UInt8 → Option (List UInt8)}

variable (proxy) in
structure Stored.Good (stored : Stored C) (key : CacheKey) (log : List (Incident C)) : Prop where
  source : stored.source.exchange.Good proxy
  complete : completeCache stored.source.env stored.source.exchange.ctx = some (key, stored.entry)
  ended : .ended stored.source ∈ log

variable (proxy) in
structure CacheWorld.Good (world : CacheWorld C) (log : List (Incident C)) : Prop where
  exchanges : ∀ id x, world.exchanges id = some x → x.Good proxy
  store : ∀ key stored, world.store key = some stored → stored.Good proxy key log

variable {world : CacheWorld C} {log : List (Incident C)}

theorem CacheWorld.Good.mono {log' : List (Incident C)} (h : world.Good proxy log)
    (hlog : log ⊆ log') : world.Good proxy log' where
  exchanges := h.exchanges
  store key stored hstored :=
    have hgood := h.store key stored hstored
    ⟨hgood.source, hgood.complete, hlog hgood.ended⟩

theorem CacheWorld.Good.proceed (h : world.Good proxy log) (id : ℕ) {f : Exchange C → Exchange C}
    (hf : ∀ x, x.Good proxy → (f x).Good proxy) : (world.proceed id f).Good proxy log := by
  rw [CacheWorld.proceed]
  cases hx : world.exchanges id with
  | none => exact h
  | some x =>
    refine ⟨fun id' x' hx' => ?_, h.store⟩
    rcases Table.of_insert_eq_some hx' with ⟨-, rfl⟩ | hold
    · exact hf x (h.exchanges id x hx)
    · exact h.exchanges id' x' hold

theorem CacheWorld.Good.conclude (h : world.Good proxy log) {id : ℕ} {ending : Ending C}
    (hx : world.exchanges id = some ending.exchange) :
    (world.conclude id ending).Good proxy (.ended ending :: log) := by
  have hgrown := h.mono (List.subset_cons_self (.ended ending) log)
  refine ⟨fun id' x' hx' => h.exchanges id' x' (Table.of_erase_eq_some hx'),
    fun key stored hstored => ?_⟩
  rw [CacheWorld.conclude] at hstored
  cases hcomplete : completeCache ending.env ending.exchange.ctx with
  | none =>
    rw [hcomplete] at hstored
    exact hgrown.store key stored hstored
  | some pair =>
    rw [hcomplete] at hstored
    rcases Table.of_insert_eq_some hstored with ⟨rfl, rfl⟩ | hold
    · exact ⟨h.exchanges id _ hx, hcomplete, List.mem_cons_self⟩
    · exact hgrown.store key stored hold

theorem CacheWorld.Good.step (h : world.Good proxy log) (event : CacheEvent C) :
    (world.step options proxy post event).Good proxy
      ((world.emit options proxy event).toList ++ log) := by
  cases event with
  | arrive id o selections brought lookup =>
    rw [CacheWorld.step, CacheWorld.emit]
    cases hfound : world.found (forwardedContext options proxy.lib o selections brought) lookup with
    | some entry => exact h.mono (List.subset_cons_self _ _)
    | none =>
      refine ⟨fun id' x' hx' => ?_, h.store⟩
      rcases Table.of_insert_eq_some hx' with ⟨-, rfl⟩ | hold
      · exact good_begin o selections brought
      · exact h.exchanges id' x' hold
  | retry id choice => exact h.proceed id fun x hx => hx.reselect choice
  | respond id env upstream => exact h.proceed id fun x hx => hx.respond env upstream
  | receive id chunk endOfStream => exact h.proceed id fun x hx => hx.receive chunk endOfStream
  | finish id aborted env =>
    rw [CacheWorld.step, CacheWorld.emit]
    cases hending : world.ending id aborted env with
    | none => exact h
    | some ending =>
      obtain ⟨x, hx, rfl⟩ := map_eq_some_iff.mp hending
      exact h.conclude hx
  | evict key => exact ⟨h.exchanges, fun key' stored hstored =>
    h.store key' stored (Table.of_erase_eq_some hstored)⟩

theorem good_run (history : List (CacheEvent C)) :
    ((cacheMachine options proxy post).run {} history).Good proxy
      ((cacheMachine options proxy post).log {} history) :=
  Machine.invariant ⟨fun _ _ => nofun, fun _ _ => nofun⟩ (fun _ _ event h => h.step event) history

theorem found_eq_some_iff {ctx : ResponseContext C} {lookup : CacheLookup} {key : CacheKey}
    {stored : Stored C} :
    world.found ctx lookup = some (key, stored) ↔
      lookup.fails = false ∧ (∃ cache, ctx.httpCache = some cache ∧ cache.key = key) ∧
        world.store key = some stored := by
  rw [CacheWorld.found]
  cases lookup.fails with
  | true => simp
  | false =>
    rw [if_neg Bool.false_ne_true, bind_eq_some_iff]
    constructor
    · rintro ⟨cache, hcache, hfound⟩
      obtain ⟨stored', hstored, hpair⟩ := map_eq_some_iff.mp hfound
      obtain ⟨rfl, rfl⟩ := Prod.mk.inj hpair
      exact ⟨rfl, ⟨cache, hcache, rfl⟩, hstored⟩
    · rintro ⟨-, ⟨cache, hcache, rfl⟩, hstored⟩
      exact ⟨cache, hcache, by rw [hstored]; rfl⟩

theorem emit_eq_hit_iff {event : CacheEvent C} {hit : Hit C} :
    (cacheMachine options proxy post).emit world event = some (.hit hit) ↔
      ∃ id o selections lookup, event = .arrive id o selections hit.request lookup ∧
        hit.now = lookup.now ∧ hit.readUntil = lookup.readUntil ∧
        world.found (forwardedContext options proxy.lib o selections hit.request) lookup
          = some (hit.key, hit.stored) := by
  constructor
  · intro h
    cases event with
    | arrive id o selections brought lookup =>
      obtain ⟨entry, hfound, hhit⟩ := map_eq_some_iff.mp h
      obtain rfl := Incident.hit.inj hhit
      exact ⟨id, o, selections, lookup, rfl, rfl, rfl, hfound⟩
    | finish id aborted env =>
      obtain ⟨ending, -, hhit⟩ := map_eq_some_iff.mp h
      cases hhit
    | _ => cases h
  · rintro ⟨id, o, selections, lookup, rfl, hnow, hread, hfound⟩
    show Option.map _ (world.found _ lookup) = _
    rw [hfound, map_some, ← hnow, ← hread]

/-- **What a hit is written from** has been made by an exchange that was over. -/
theorem good_of_hit {history : List (CacheEvent C)} {event : CacheEvent C} {hit : Hit C}
    (h : (cacheMachine options proxy post).emit
      ((cacheMachine options proxy post).run {} history) event = some (.hit hit)) :
    hit.stored.Good proxy hit.key ((cacheMachine options proxy post).log {} history) := by
  obtain ⟨id, o, selections, lookup, -, -, -, hfound⟩ := emit_eq_hit_iff.mp h
  exact (good_run history).store _ _ (found_eq_some_iff.mp hfound).2.2

end

end NantianGateway.Http
