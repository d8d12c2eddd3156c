import NantianGateway.Ai.Sessions

/-!
# Where cached responses come from

The key of an attempt is made in `pre_process`, before a fallback replaces the model; so the
response of a fallback model is stored under the key of the model it stands in for.  And a
response is stored whatever its status.  **If neither happens, every hit has its origin in the
history.**
-/

namespace NantianGateway.Ai

open Fallible List

variable {Json : Type} (cr : AiCrates Json)

abbrev AiCrates.key (request : AIRequest Json) : String := buildCacheKey cr.json cr.finish request

def Misses (e : AIError Json) : Prop := ∀ response, e ≠ .cacheHit response

def CacheHolds (P : String → AIResponse Json → Prop) (cache : Option (SemanticCache Json)) : Prop :=
  ∀ c, cache = some c → ∀ e ∈ c.backend.entries, P e.1 e.2.response

theorem CacheHolds.mono {P Q : String → AIResponse Json → Prop}
    {cache : Option (SemanticCache Json)}
    (h : CacheHolds P cache) (hPQ : ∀ key response, P key response → Q key response) :
    CacheHolds Q cache :=
  fun c hc e he => hPQ _ _ (h c hc e he)

/-- A filter with the given adapters and a cache whose entries have a property. -/
structure Holding (adapters : AdapterRegistry Json) (P : String → AIResponse Json → Prop)
    (filter : AIGatewayFilter Json) : Prop where
  adapters : filter.adapters = adapters
  cache : CacheHolds P filter.semanticCache

variable {adapters : AdapterRegistry Json} {P : String → AIResponse Json → Prop}

theorem Holding.withCache {filter : AIGatewayFilter Json} (h : Holding adapters P filter)
    {cache : SemanticCache Json} (hcache : ∀ e ∈ cache.backend.entries, P e.1 e.2.response) :
    Holding adapters P { filter with semanticCache := some cache } := by
  refine ⟨h.adapters, ?_⟩
  rintro _ ⟨⟩
  exact hcache

/-! ## Before the upstream -/

variable (env : PreEnv)

theorem holding_limitRequest (path : String) (apiKey : Option String) (request : AIRequest Json) :
    Meets (Holding adapters P) (limitRequest env path apiKey request)
      (fun _ filter => Holding adapters P filter)
      (fun e filter => Holding adapters P filter ∧ Misses e) := by
  refine (meets_limitRequest (fun _ _ h => ⟨h.adapters, h.cache⟩) env path apiKey request).mono
    (fun _ h => h) (fun _ _ h => h) ?_
  rintro e filter ⟨h, retryAfterSecs, rfl⟩
  exact ⟨h, fun _ => by simp⟩

theorem holding_checkTenant (apiKey : Option String) (request : AIRequest Json) :
    Meets (Holding adapters P) (checkTenant env apiKey request)
      (fun _ filter => Holding adapters P filter)
      (fun e filter => Holding adapters P filter ∧ Misses e) := by
  intro filter h
  unfold checkTenant
  split
  · split
    · exact ⟨h, fun _ => by simp⟩
    · dsimp only
      split
      · exact ⟨⟨h.adapters, h.cache⟩, fun _ => by simp⟩
      · split
        · exact ⟨⟨h.adapters, h.cache⟩, fun _ => by simp⟩
        · exact ⟨h.adapters, h.cache⟩
  · exact h

theorem holding_lookupCache (request : AIRequest Json) :
    Meets (Holding adapters P) (lookupCache cr env request)
      (fun cacheKey filter => Holding adapters P filter
        ∧ ∀ key, cacheKey = some key → key = cr.key request)
      (fun e filter => Holding adapters P filter
        ∧ ∀ response, e = .cacheHit response → P (cr.key request) response) := by
  intro filter h
  unfold lookupCache
  split
  · exact ⟨h, fun _ hnone => absurd hnone (by simp)⟩
  · rename_i cache hcache
    dsimp only
    have hentries := h.cache cache hcache
    have hhold := h.withCache fun e he =>
      hentries e (@SemanticCache.mem_entries_lookupKey _ cache e (cr.key request) env.lookupTime
        env.expiryTime he)
    split
    · rename_i response hresponse
      refine ⟨hhold, ?_⟩
      rintro _ ⟨⟩
      obtain ⟨entry, hmem, rfl⟩ := SemanticCache.mem_of_lookupKey hresponse
      exact hentries _ hmem
    · exact ⟨hhold, fun key hkey => (Option.some.inj hkey).symm⟩

variable (filter : AIGatewayFilter Json)

/-- **What `pre_process` returns from the cache has the property of the entries**; otherwise the
context has the key of its request. -/
theorem holding_preProcess (env : PreEnv) (path : String)
    (body : List UInt8) (apiKey : Option String) :
    Meets (fun s => s = filter ∧ Holding adapters P s) (preProcess cr env path body apiKey)
      (fun ctx s => Holding adapters P s ∧ ∀ key, ctx.cacheKey = some key →
        key = cr.key ctx.request)
      (fun e s => Holding adapters P s ∧ ∀ prepared response,
        prepare cr filter env path body apiKey = .ok prepared → e = .cacheHit response →
          P (cr.key prepared.request) response) := by
  have hprepare (filter' : AIGatewayFilter Json) :
      Meets (fun s => filter' = s ∧ s = filter ∧ Holding adapters P s)
        (lift (prepare cr filter' env path body apiKey))
        (fun prepared s => Holding adapters P s
          ∧ prepare cr filter env path body apiKey = .ok prepared)
        (fun e s => Holding adapters P s ∧ ∀ prepared response,
          prepare cr filter env path body apiKey = .ok prepared → e = .cacheHit response →
            P (cr.key prepared.request) response) := by
    refine meets_lift ?_ ?_
    · rintro prepared hok s ⟨rfl, rfl, hs⟩
      exact ⟨hs, hok⟩
    · rintro e herror s ⟨rfl, rfl, hs⟩
      exact ⟨hs, fun prepared response hok => absurd (herror.symm.trans hok) (by simp)⟩
  refine meets_get.bind fun filter' => (hprepare filter').bind fun prepared => ?_
  refine meets_of_fact fun hprepared => ?_
  have hmiss (e : AIError Json) (s : AIGatewayFilter Json)
      (h : Holding adapters P s ∧ Misses e) : Holding adapters P s ∧ ∀ prepared response,
        prepare cr filter env path body apiKey = .ok prepared → e = .cacheHit response →
          P (cr.key prepared.request) response :=
    ⟨h.1, fun _ response _ hit => absurd hit (h.2 response)⟩
  refine ((holding_limitRequest env path apiKey prepared.request).mono (fun _ h => h)
    (fun _ _ h => h) hmiss).bind fun rateLimitKey => ?_
  refine ((holding_checkTenant env apiKey prepared.request).mono (fun _ h => h)
    (fun _ _ h => h) hmiss).bind fun _ => ?_
  refine ((holding_lookupCache cr env prepared.request).mono (fun _ h => h)
    (fun _ _ h => h) ?_).bind fun cacheKey => meets_pure fun _ h => h
  rintro e s ⟨hs, hhit⟩
  refine ⟨hs, fun prepared' response hok hit => ?_⟩
  obtain rfl := Except.ok.inj (hprepared.symm.trans hok)
  exact hhit response hit

/-! ## After the upstream -/

def Stores (adapters : AdapterRegistry Json) (ctx : AIContext Json) (body : List UInt8)
    (key : String) (response : AIResponse Json) : Prop :=
  ∃ adapter, adapters ctx.format = some adapter ∧ ctx.request.stream = false
    ∧ ctx.cacheKey = some key ∧ adapter.parseResponse body = .ok response

theorem holding_storeResponse (env : PostEnv) (cacheKey : Option String)
    (response : AIResponse Json) (hstore : ∀ key, cacheKey = some key → P key response)
    (err : AIError Json → AIGatewayFilter Json → Prop) :
    Meets (Holding adapters P) (storeResponse env cacheKey response)
      (fun _ filter => Holding adapters P filter) err := by
  intro filter h
  unfold storeResponse
  split
  · rename_i cache key hcache
    refine h.withCache fun e he => ?_
    rcases SemanticCache.mem_entries_store he with hold | ⟨hkey, hresponse⟩
    · exact h.cache cache hcache e hold
    · rw [hkey, hresponse]
      exact hstore key rfl
  · exact h

theorem holding_recordUsage (env : PostEnv) (rateLimitKey : Option String)
    (usage : Option AIUsage) (err : AIError Json → AIGatewayFilter Json → Prop) :
    Meets (Holding adapters P) (recordUsage env rateLimitKey usage)
      (fun _ filter => Holding adapters P filter) err := by
  intro filter h
  unfold recordUsage
  split
  · exact ⟨h.adapters, h.cache⟩
  · exact h

theorem holding_lift {α : Type} (r : Except (AIError Json) α) :
    Meets (Holding adapters P) (lift r) (fun _ filter => Holding adapters P filter)
      (fun _ filter => Holding adapters P filter) :=
  meets_lift (fun _ _ _ h => h) fun _ _ _ h => h

theorem holding_postProcess (env : PostEnv) (ctx : AIContext Json) (body : List UInt8)
    (hstore : ∀ key response, Stores adapters ctx body key response → P key response) :
    Meets (Holding adapters P) (postProcess cr env ctx body)
      (fun _ filter => Holding adapters P filter) (fun _ filter => Holding adapters P filter) := by
  have hadapter (filter : AIGatewayFilter Json) : Meets (fun s => filter = s ∧ Holding adapters P s)
        (lift (filter.findAdapter ctx.format))
        (fun adapter s => Holding adapters P s ∧ adapters ctx.format = some adapter)
        (fun _ s => Holding adapters P s) := by
    refine meets_lift ?_ fun _ _ _ h => h.2
    rintro adapter hfound s ⟨rfl, hs⟩
    exact ⟨hs, hs.adapters ▸ adapters_of_findAdapter hfound⟩
  have hreformat (adapter : FormatAdapter Json) (hfound : adapters ctx.format = some adapter) :
      Meets (Holding adapters P) (reformat env adapter ctx body)
        (fun _ filter => Holding adapters P filter)
        (fun _ filter => Holding adapters P filter) := by
    refine meets_ite (fun _ => holding_lift _) fun hstream => ?_
    have hparse : Meets (Holding adapters P) (lift (adapter.parseResponse body))
        (fun response filter => Holding adapters P filter
          ∧ adapter.parseResponse body = .ok response)
        (fun _ filter => Holding adapters P filter) :=
      meets_lift (fun _ hok _ h => ⟨h, hok⟩) fun _ _ _ h => h
    refine hparse.bind fun response => meets_of_fact fun hresponse => ?_
    refine (holding_storeResponse env ctx.cacheKey response (fun key hkey => ?_) _).bind fun _ =>
      (holding_lift _).bind fun _ => meets_pure fun _ h => h
    exact hstore key response ⟨adapter, hfound, Bool.eq_false_of_not_eq_true hstream,
      hkey, hresponse⟩
  refine meets_get.bind fun filter => (hadapter filter).bind fun adapter => ?_
  refine meets_of_fact fun hfound => (holding_lift _).bind fun _ => ?_
  exact (hreformat adapter hfound).bind fun out =>
    (holding_recordUsage env ctx.rateLimitKey out.1 _).bind fun _ => meets_pure fun _ h => h

theorem holding_settleCall (env : PostEnv) (session : Session Json) (body : List UInt8)
    (status : ℕ)
    (hstore : ∀ key response, Stores adapters session.ctx body key response → P key response) :
    Meets (Holding adapters P) (settleCall cr env session body status)
      (fun _ filter => Holding adapters P filter) (fun _ filter => Holding adapters P filter) := by
  have hpost : Meets (Holding adapters P) (attempt (postProcess cr env session.ctx body))
      (fun _ filter => Holding adapters P filter) (fun _ filter => Holding adapters P filter) :=
    (holding_postProcess cr env session.ctx body hstore).attempt
  refine hpost.bind fun result => meets_ite (fun _ => ?_) fun _ => ?_
  · exact (holding_lift _).bind fun _ => meets_pure fun _ h => h
  · refine meets_get.bind fun filter => ?_
    split
    · exact meets_pure fun _ h => h.2
    · exact meets_throw fun _ h => h.2

theorem holding_retryCall (env : PreEnv) (session : Session Json) (nextModel : String) :
    Meets (fun s => s = filter ∧ Holding adapters P s) (retryCall cr env session nextModel)
      (fun session' s => Holding adapters P s ∧ session'.attempt ≠ 0)
      (fun e s => Holding adapters P s ∧ ∀ prepared response,
        prepare cr filter env session.path session.body session.apiKey = .ok prepared →
          e = .cacheHit response → P (cr.key prepared.request) response) :=
  (holding_preProcess cr filter env session.path session.body session.apiKey).bind fun _ =>
    meets_get.bind fun _ => meets_pure fun _ h => ⟨h.2.1, Nat.succ_ne_zero _⟩

/-! ## Histories -/

variable (adapters) in
/-- The response was given by the upstream, for a request with the key, with a status below 400. -/
def Produced (log : List (LogEntry Json)) (key : String) (response : AIResponse Json) : Prop :=
  ∃ attempt ctx body status, .answered attempt ctx body status ∈ log
    ∧ (∃ adapter, adapters ctx.format = some adapter ∧ adapter.parseResponse body = .ok response)
    ∧ cr.key ctx.request = key ∧ status < 400

variable (adapters) in
/-- Every answer that is stored has a status below 400, and is stored under the key of its request.
For a first attempt the latter need not be said. -/
def StoresSoundly (log : List (LogEntry Json)) : Prop :=
  ∀ attempt ctx body status, .answered attempt ctx body status ∈ log →
    ∀ key response, Stores adapters ctx body key response →
      status < 400 ∧ (0 < attempt → cr.key ctx.request = key)

variable {log log' : List (LogEntry Json)}

theorem Produced.mono {key : String} {response : AIResponse Json}
    (h : Produced cr adapters log key response) (hsub : log ⊆ log') :
    Produced cr adapters log' key response := by
  obtain ⟨attempt, ctx, body, status, hanswered, hrest⟩ := h
  exact ⟨attempt, ctx, body, status, hsub hanswered, hrest⟩

variable (adapters) in
def HitsProduced (log : List (LogEntry Json)) : Prop :=
  ∀ before request response after, log = before ++ .hit request response :: after →
    Produced cr adapters before (cr.key request) response

theorem HitsProduced.concat {log : List (LogEntry Json)} {e : LogEntry Json}
    (h : HitsProduced cr adapters log)
    (he : ∀ request response, e = .hit request response →
      Produced cr adapters log (cr.key request) response) :
    HitsProduced cr adapters (log ++ [e]) := by
  intro before request response after hsplit
  rcases eq_nil_or_concat after with rfl | ⟨after', last, rfl⟩
  · obtain ⟨rfl, hlast⟩ := append_inj' hsplit rfl
    exact he request response (List.cons.inj hlast).1
  · rw [concat_eq_append, ← cons_append, ← append_assoc] at hsplit
    obtain ⟨hlog, -⟩ := append_inj' hsplit rfl
    exact h before request response after' hlog

variable (adapters) in
/-- The cache holds what was produced, hits were produced before, and a first attempt has the key of
its request. -/
structure CacheSound (g : Gateway Json) : Prop where
  holding : Holding adapters (Produced cr adapters g.log) g.filter
  hits : HitsProduced cr adapters g.log
  keys : ∀ id session, g.sessions id = some session → session.attempt = 0 →
    ∀ key, session.ctx.cacheKey = some key → key = cr.key session.ctx.request

variable {cr} {g : Gateway Json}

namespace CacheSound

section

variable (h : CacheSound cr adapters g)

include h

theorem withFilter {filter : AIGatewayFilter Json}
    (hfilter : Holding adapters (Produced cr adapters g.log) filter) :
    CacheSound cr adapters { g with filter := filter } :=
  ⟨hfilter, h.hits, h.keys⟩

theorem finish {filter : AIGatewayFilter Json}
    (hfilter : Holding adapters (Produced cr adapters g.log) filter) (id : ℕ) :
    CacheSound cr adapters (g.finish id filter) := by
  refine ⟨hfilter, h.hits, fun i session hsession => ?_⟩
  simp only [Gateway.finish] at hsession
  split at hsession
  · exact absurd hsession (by simp)
  · exact h.keys i session hsession

variable {session : Session Json} (id : ℕ)

theorem wait (hkey : session.attempt = 0 → ∀ key, session.ctx.cacheKey = some key →
      key = cr.key session.ctx.request) : CacheSound cr adapters (g.wait id session) := by
  refine ⟨h.holding, h.hits, fun i session' hsession' => ?_⟩
  simp only [Gateway.wait, Table.insert_apply] at hsession'
  split at hsession'
  · obtain rfl := Option.some.inj hsession'
    exact hkey
  · exact h.keys i session' hsession'

theorem record {e : LogEntry Json}
    (he : ∀ request response, e = .hit request response →
      Produced cr adapters g.log (cr.key request) response) :
    CacheSound cr adapters (g.record [e]) := by
  refine ⟨⟨h.holding.adapters, ?_⟩, h.hits.concat cr he, h.keys⟩
  exact h.holding.cache.mono fun _ _ hproduced =>
    hproduced.mono cr (subset_append_left _ _)

theorem recordHit {prepared : Except (AIError Json) (Prepared Json)} {e : AIError Json}
    (he : ∀ p response, prepared = .ok p → e = .cacheHit response →
      Produced cr adapters g.log (cr.key p.request) response) :
    CacheSound cr adapters (g.record (hitEntry prepared e)) := by
  unfold hitEntry
  split
  · rename_i p response
    refine h.record ?_
    rintro _ _ ⟨⟩
    exact he p response rfl rfl
  · unfold Gateway.record
    rw [append_nil]
    exact h

theorem start (id : Option ℕ) (env : PreEnv) (path : String) (body : List UInt8)
    (apiKey : Option String) :
    CacheSound cr adapters (g.start cr id env path body apiKey) := by
  have hspec := @holding_preProcess _ cr adapters (Produced cr adapters g.log) g.filter env path
    body apiKey
  unfold Gateway.start
  cases hrun : preProcess cr env path body apiKey g.filter with
  | ok ctx filter =>
    obtain ⟨hhold, hkey⟩ := hspec.of_ok ⟨rfl, h.holding⟩ hrun
    have hcalled := @record _ _ _ _ (h.withFilter hhold) (.called apiKey 0 ctx) (by simp)
    cases id with
    | some id => exact hcalled.wait id fun _ => hkey
    | none => exact hcalled
  | error e filter =>
    obtain ⟨hhold, hhit⟩ := hspec.of_error ⟨rfl, h.holding⟩ hrun
    exact (h.withFilter hhold).recordHit hhit

theorem retry (env : PreEnv) (session : Session Json) (nextModel : String) :
    CacheSound cr adapters (g.retry cr id env session nextModel) := by
  have hspec := @holding_retryCall _ cr adapters (Produced cr adapters g.log) g.filter env session
    nextModel
  unfold Gateway.retry
  cases hrun : retryCall cr env session nextModel g.filter with
  | ok session' filter =>
    obtain ⟨hhold, hattempt⟩ := hspec.of_ok ⟨rfl, h.holding⟩ hrun
    have hcalled := @record _ _ _ _ (h.withFilter hhold)
      (.called session'.apiKey session'.attempt session'.ctx) (by simp)
    exact hcalled.wait id fun hzero => absurd hzero hattempt
  | error e filter =>
    obtain ⟨hhold, hhit⟩ := hspec.of_error ⟨rfl, h.holding⟩ hrun
    exact (h.finish hhold id).recordHit hhit

theorem answer (env : PostEnv) (retryEnv : PreEnv)
    (hsession : g.sessions id = some session) (body : List UInt8) (status : ℕ)
    (hsound : StoresSoundly cr adapters
      (g.log ++ [.answered session.attempt session.ctx body status])) :
    CacheSound cr adapters (g.answer cr id env retryEnv session body status) := by
  have hanswered := @record _ _ _ _ h (.answered session.attempt session.ctx body status) (by simp)
  have hstore (key : String) (response : AIResponse Json)
      (hstores : Stores adapters session.ctx body key response) :
      Produced cr adapters (g.log ++ [.answered session.attempt session.ctx body status]) key
        response := by
    have hmem : .answered session.attempt session.ctx body status
        ∈ g.log ++ [.answered session.attempt session.ctx body status] :=
      mem_append_right _ (mem_singleton_self _)
    obtain ⟨hstatus, hfall⟩ := hsound _ _ _ _ hmem key response hstores
    obtain ⟨adapter, hadapter, -, hkey, hresponse⟩ := hstores
    refine ⟨_, _, _, _, hmem, ⟨adapter, hadapter, hresponse⟩, ?_, hstatus⟩
    rcases Nat.eq_zero_or_pos session.attempt with hzero | hpos
    · exact (h.keys id session hsession hzero key hkey).symm
    · exact hfall hpos
  have hspec := holding_settleCall cr env session body status hstore
  unfold Gateway.answer
  dsimp only
  cases hrun : settleCall cr env session body status
      (g.record [.answered session.attempt session.ctx body status]).filter with
  | ok outcome filter =>
    have hhold := hspec.of_ok hanswered.holding hrun
    cases outcome with
    | inl _ => exact hanswered.finish hhold id
    | inr nextModel => exact (hanswered.withFilter hhold).retry _ _ _ _
  | error e filter => exact hanswered.finish (hspec.of_error hanswered.holding hrun) id

end

end CacheSound

/-! ## The log grows -/

theorem log_start (id : Option ℕ) (env : PreEnv) (path : String) (body : List UInt8)
    (apiKey : Option String) : g.log <+: (g.start cr id env path body apiKey).log := by
  unfold Gateway.start
  split
  · cases id <;> exact prefix_append _ _
  · exact prefix_append _ _

theorem log_retry (id : ℕ) (env : PreEnv) (session : Session Json) (nextModel : String) :
    g.log <+: (g.retry cr id env session nextModel).log := by
  unfold Gateway.retry
  split
  · exact prefix_append _ _
  · exact prefix_append _ _

theorem log_answer (id : ℕ) (env : PostEnv) (retryEnv : PreEnv) (session : Session Json)
    (body : List UInt8) (status : ℕ) :
    g.log ++ [.answered session.attempt session.ctx body status]
      <+: (g.answer cr id env retryEnv session body status).log := by
  unfold Gateway.answer
  dsimp only
  split
  · exact prefix_rfl
  · rename_i nextModel filter _
    exact @log_retry _ cr { g.record [.answered session.attempt session.ctx body status] with
      filter := filter } id retryEnv session nextModel
  · exact prefix_rfl

theorem log_step (event : GatewayEvent Json) : g.log <+: (g.step cr event).log := by
  cases event with
  | start id env path body apiKey =>
    rw [Gateway.step]
    split
    · exact prefix_rfl
    · exact log_start id env path body apiKey
  | answer id env retryEnv body status =>
    rw [Gateway.step]
    split
    · exact (prefix_append _ _).trans (log_answer _ _ _ _ _ _)
    · exact prefix_rfl
  | failed id => exact prefix_rfl

theorem StoresSoundly.anti (h : StoresSoundly cr adapters log')
    (hsub : log ⊆ log') : StoresSoundly cr adapters log :=
  fun attempt ctx body status hanswered => h attempt ctx body status (hsub hanswered)

theorem CacheSound.step (h : CacheSound cr adapters g) (event : GatewayEvent Json)
    (hsound : StoresSoundly cr adapters (g.step cr event).log) :
    CacheSound cr adapters (g.step cr event) := by
  cases event with
  | start id env path body apiKey =>
    rw [Gateway.step]
    split
    · exact h
    · exact h.start id env path body apiKey
  | answer id env retryEnv body status =>
    rw [Gateway.step] at hsound ⊢
    split at hsound
    · rename_i session hsession
      exact h.answer id env retryEnv hsession body status
        (hsound.anti (log_answer _ _ _ _ _ _).subset)
    · exact h
  | failed id => exact h.finish h.holding id

variable (cr) in
theorem cacheSound_run {filter : AIGatewayFilter Json}
    (hnil : ∀ cache, filter.semanticCache = some cache → cache.backend.entries = [])
    (events : List (GatewayEvent Json))
    (hsound : StoresSoundly cr filter.adapters (runGateway cr filter events).log) :
    CacheSound cr filter.adapters (runGateway cr filter events) := by
  induction events using List.reverseRecOn with
  | nil =>
    refine ⟨⟨rfl, fun cache hcache e he => ?_⟩, fun before request response after hsplit => ?_,
      fun id session hsession => absurd hsession (by simp [runGateway])⟩
    · rw [hnil cache hcache] at he
      exact absurd he not_mem_nil
    · exact absurd hsplit (by simp [runGateway])
  | append_singleton events event ih =>
    have hrun : runGateway cr filter (events ++ [event])
        = (runGateway cr filter events).step cr event := by
      rw [runGateway, foldl_append]
      rfl
    rw [hrun] at hsound ⊢
    exact (ih (hsound.anti (log_step event).subset)).step event hsound

/-! ## Provenance -/

theorem model_eq_of_cacheKeyStream {json : JsonCrate Json} {a b : AIRequest Json}
    (h : cacheKeyStream json a = cacheKeyStream json b) : a.model = b.model :=
  (HashStream.delimited_str h).1

/-- A response from the cache was given by the upstream before, for a request with the same key,
with a status below 400; and with the same model, without a collision of hashes. -/
def CacheProvenance (cr : AiCrates Json) (adapters : AdapterRegistry Json)
    (log : List (LogEntry Json)) : Prop :=
  ∀ before request response after, log = before ++ .hit request response :: after →
    ∃ attempt ctx body status, .answered attempt ctx body status ∈ before
      ∧ (∃ adapter, adapters ctx.format = some adapter ∧ adapter.parseResponse body = .ok response)
      ∧ cr.key ctx.request = cr.key request ∧ status < 400
      ∧ ((cr.key ctx.request = cr.key request →
            cacheKeyStream cr.json ctx.request = cacheKeyStream cr.json request) →
          ctx.request.model = request.model)

/-- **Cached responses have their origin in the history, if answers are stored soundly.** -/
theorem cacheProvenance_sound (cr : AiCrates Json) {filter : AIGatewayFilter Json}
    (hempty : ∀ cache, filter.semanticCache = some cache → cache.backend.entries = [])
    {events : List (GatewayEvent Json)}
    (hsound : StoresSoundly cr filter.adapters (runGateway cr filter events).log) :
    CacheProvenance cr filter.adapters (runGateway cr filter events).log := by
  intro before request response after hsplit
  obtain ⟨attempt, ctx, body, status, hanswered, hresponse, hkey, hstatus⟩ :=
    (cacheSound_run cr hempty events hsound).hits before request response after hsplit
  exact ⟨attempt, ctx, body, status, hanswered, hresponse, hkey, hstatus,
    fun hcollision => model_eq_of_cacheKeyStream (hcollision hkey)⟩

def cachingGateway : AIGatewayFilter Empty where
  adapters := Table.empty.insert "openai" smallModelAdapter
  fallback := some smallThenLarge
  semanticCache := some {}

def smallKey : String := "cache:0000000000000073"

def smallRequest (id : ℕ) : GatewayEvent Empty :=
  .start (some id) {} "/v1/chat/completions" [] none

theorem cacheProvenance_sound_hit : CacheProvenance plainCrates cachingGateway.adapters
      (runGateway plainCrates cachingGateway
        [smallRequest 0, .answer 0 {} {} [1] 200, smallRequest 1]).log := by
  refine cacheProvenance_sound plainCrates ?_ ?_
  · rintro _ ⟨⟩
    rfl
  · have hlog : (runGateway plainCrates cachingGateway
        [smallRequest 0, .answer 0 {} {} [1] 200, smallRequest 1]).log
        = [.called none 0 (smallContext "small" smallKey),
            .answered 0 (smallContext "small" smallKey) [1] 200,
            .hit { messages := [], model := "small" } smallResponse] := by decide +kernel
    rw [hlog]
    intro attempt ctx body status hanswered key response _
    have hentry : LogEntry.answered attempt ctx body status
        = .answered 0 (smallContext "small" smallKey) [1] 200 := by simpa using hanswered
    obtain ⟨rfl, -, -, rfl⟩ := LogEntry.answered.inj hentry
    exact ⟨by decide, fun hpos => absurd hpos (by decide)⟩

/-- **A response with a status of 404 comes back from the cache, and so does one that the large
model gave instead of the small one.** -/
theorem cacheProvenance_broken : ¬ CacheProvenance plainCrates cachingGateway.adapters
        (runGateway plainCrates cachingGateway
          [smallRequest 0, .answer 0 {} {} [1] 404, smallRequest 1]).log
      ∧ ¬ CacheProvenance plainCrates cachingGateway.adapters (runGateway plainCrates cachingGateway
          [smallRequest 0, .answer 0 {} {} [] 500, .answer 0 {} {} [1] 200,
            smallRequest 1]).log := by
  constructor
  · intro h
    obtain ⟨attempt, ctx, body, status, hanswered, -, -, hstatus, -⟩ :=
      h [.called none 0 (smallContext "small" smallKey),
          .answered 0 (smallContext "small" smallKey) [1] 404]
        { messages := [], model := "small" } smallResponse [] (by decide +kernel)
    have hentry : LogEntry.answered attempt ctx body status
        = .answered 0 (smallContext "small" smallKey) [1] 404 := by simpa using hanswered
    obtain ⟨-, -, -, rfl⟩ := LogEntry.answered.inj hentry
    exact absurd hstatus (by decide)
  · intro h
    obtain ⟨attempt, ctx, body, status, hanswered, -, hkey, hstatus, -⟩ :=
      h [.called none 0 (smallContext "small" smallKey),
          .answered 0 (smallContext "small" smallKey) [] 500,
          .called none 1 (smallContext "large" smallKey),
          .answered 1 (smallContext "large" smallKey) [1] 200]
        { messages := [], model := "small" } smallResponse [] (by decide +kernel)
    have hentry : LogEntry.answered attempt ctx body status
          = .answered 0 (smallContext "small" smallKey) [] 500
        ∨ LogEntry.answered attempt ctx body status
          = .answered 1 (smallContext "large" smallKey) [1] 200 := by simpa using hanswered
    rcases hentry with hfirst | hsecond
    · obtain ⟨-, -, -, rfl⟩ := LogEntry.answered.inj hfirst
      exact absurd hstatus (by decide)
    · obtain ⟨-, rfl, -, -⟩ := LogEntry.answered.inj hsecond
      exact absurd hkey (by decide +kernel)

end NantianGateway.Ai
