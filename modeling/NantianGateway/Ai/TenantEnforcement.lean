import NantianGateway.Ai.Sessions
import NantianGateway.Lib.Machines

/-!
# Tenants and models

`pre_process` checks the model that the router and the experiment have left in the request, if
there is a key.  The model of a fallback is put in after the check.  So a request is handed to the
upstream unchecked in two ways, each of them an event on a state of the gateway
(`Gateway.Unchecked`): a request without a key that the other stages let through, and an answer that
makes the call fall back to a model which the tenant of its key may not use.

Tenants are enforced exactly if no event of the history is of that kind; and so they are **if every
request presents a key and the models of the fallback chains are permitted for it**.
-/

namespace NantianGateway.Ai

open Fallible

variable {Json : Type} (cr : AiCrates Json)

/-! ## The stages -/

/-- What the stages leave as it was configured, the quotas of the tenants apart. -/
def AIGatewayFilter.policy (filter : AIGatewayFilter Json) :
    Option TenantManager × Option ModelFallback :=
  (filter.tenantManager, filter.fallback)

theorem keeps_policy_lookupCache (env : PreEnv) (request : AIRequest Json) :
    Keeps AIGatewayFilter.policy (lookupCache cr env request) := by
  intro filter
  unfold lookupCache
  split
  · rfl
  · dsimp only
    split <;> rfl

/-- The filter has the tenants of `manager` and the fallback chains it was configured with. -/
def Configured (manager : TenantManager) (fallback : Option ModelFallback)
    (filter : AIGatewayFilter Json) : Prop :=
  filter.policy.2 = fallback
    ∧ ∃ manager', filter.policy.1 = some manager' ∧ manager.SameTenants manager'

variable {cr} {manager : TenantManager} {fallback : Option ModelFallback}

theorem meets_checkTenant (env : PreEnv) (apiKey : Option String) (request : AIRequest Json) :
    Meets (Configured manager fallback) (checkTenant env apiKey request)
      (fun _ filter => Configured manager fallback filter
        ∧ (apiKey.isSome → manager.Permits apiKey request.model))
      (fun _ => Configured manager fallback) := by
  rintro filter ⟨hfallback, manager', hmanager, hsame⟩
  cases apiKey with
  | none => exact ⟨⟨hfallback, manager', hmanager, hsame⟩, fun h => absurd h (by simp)⟩
  | some key =>
    replace hmanager : filter.tenantManager = some manager' := hmanager
    unfold checkTenant
    rw [hmanager]
    dsimp only
    split
    · exact ⟨hfallback, manager', hmanager, hsame⟩
    · rename_i tenant htenant
      have hquota := hsame.trans (manager'.sameTenants_checkQuota env.quotaTime tenant.tenantId
        (request.maxTokens.getD 1).toNat)
      split
      · exact ⟨hfallback, _, rfl, hquota⟩
      · split
        · exact ⟨hfallback, _, rfl, hquota⟩
        · rename_i haccess
          rw [hsame.resolve] at htenant
          rw [hquota.checkModelAccess, Bool.not_eq_false] at haccess
          exact ⟨⟨hfallback, _, rfl, hquota⟩, fun _ => ⟨key, tenant, rfl, htenant, haccess⟩⟩

variable (cr)

/-- **What `pre_process` lets through is permitted, if a key was presented.** -/
theorem meets_preProcess (env : PreEnv) (path : String) (body : List UInt8)
    (apiKey : Option String) :
    Meets (Configured manager fallback) (preProcess cr env path body apiKey)
      (fun ctx filter => Configured manager fallback filter
        ∧ (apiKey.isSome → manager.Permits apiKey ctx.request.model))
      (fun _ => Configured manager fallback) := by
  have hprepare (filter : AIGatewayFilter Json) :
      Meets (fun s => filter = s ∧ Configured manager fallback s)
        (lift (prepare cr filter env path body apiKey)) (fun _ => Configured manager fallback)
        (fun _ => Configured manager fallback) :=
    meets_lift (fun _ _ _ hs => hs.2) fun _ _ _ hs => hs.2
  refine meets_get.bind fun filter => (hprepare filter).bind fun prepared => ?_
  have hlimit := (@meets_limitRequest Json (Configured manager fallback)
    (fun _ _ hs => hs) env path apiKey prepared.request).mono (fun _ hs => hs)
    (fun _ _ hs => hs) fun _ _ hs => hs.1
  refine hlimit.bind fun rateLimitKey => ?_
  refine (meets_checkTenant env apiKey prepared.request).bind fun _ => ?_
  have hlookup := ((keeps_policy_lookupCache cr env prepared.request).meets fun policy =>
      (policy.2 = fallback ∧ ∃ manager', policy.1 = some manager' ∧ manager.SameTenants manager')
      ∧ (apiKey.isSome → manager.Permits apiKey prepared.request.model)).mono
    (fun _ hs => hs) (fun _ _ hs => hs) fun _ _ hs => hs.1
  exact hlookup.bind fun cacheKey => meets_pure fun _ hs => hs

theorem keeps_policy_postProcess (env : PostEnv) (ctx : AIContext Json) (body : List UInt8) :
    Keeps AIGatewayFilter.policy (postProcess cr env ctx body) := by
  have hstore (response : AIResponse Json) :
      Keeps AIGatewayFilter.policy (storeResponse env ctx.cacheKey response) := by
    intro filter
    unfold storeResponse
    split <;> rfl
  have hrecord (usage : Option AIUsage) : Keeps AIGatewayFilter.policy
        (recordUsage env ctx.rateLimitKey usage : FilterM Json Unit) := by
    intro filter
    unfold recordUsage
    split <;> rfl
  have hreformat (adapter : FormatAdapter Json) :
      Keeps AIGatewayFilter.policy (reformat env adapter ctx body) :=
    keeps_ite (keeps_lift _) ((keeps_lift _).bind fun response => (hstore response).bind fun _ =>
      (keeps_lift _).bind fun _ => keeps_pure _)
  exact keeps_get.bind fun _ => (keeps_lift _).bind fun adapter => (keeps_lift _).bind fun _ =>
    (hreformat adapter).bind fun out => (hrecord out.1).bind fun _ => keeps_pure _

/-- An entry of the chains that a status makes a call fall back to. -/
def Offers (fallback : Option ModelFallback) (status : ℕ) (model : String) : Prop :=
  ∃ chains, fallback = some chains ∧ ∃ current chain, chains current = some chain ∧
    ∃ entry ∈ chain.fallbacks, entry.model = model ∧
      (entry.onStatus = [] ∨ status ∈ entry.onStatus
        ∨ (status = 504 ∨ status = 408) ∧ entry.onTimeout = true)

theorem offers_of_resolveFallback {chains : ModelFallback} {current model : String} {status : ℕ}
    {attempt : ℕ} (h : chains.resolveFallback current (some status)
      (status = 504 || status = 408) attempt = some model) :
    Offers (some chains) status model := by
  obtain ⟨chain, hchain, hentry⟩ := Option.bind_eq_some_iff.mp h
  obtain ⟨entry, hget, htriggered⟩ := Option.bind_eq_some_iff.mp hentry
  dsimp only at htriggered
  split at htriggered
  · rename_i hcase
    refine ⟨chains, rfl, current, chain, hchain, entry, List.mem_of_getElem? hget,
      Option.some.inj htriggered, ?_⟩
    simpa [or_assoc] using hcase
  · exact absurd htriggered (by simp)

/-- **A call falls back to a model of the chains, after an answer that allows it.** -/
theorem meets_settleCall (env : PostEnv) (session : Session Json) (body : List UInt8)
    (status : ℕ) :
    Meets (Configured manager fallback) (settleCall cr env session body status)
      (fun outcome filter => Configured manager fallback filter ∧ ∀ nextModel,
        outcome = .inr nextModel → shouldAttemptFallback status = true
          ∧ Offers fallback status nextModel)
      (fun _ => Configured manager fallback) := by
  have hpost := (keeps_policy_postProcess cr env session.ctx body).attempt.meets fun policy =>
    policy.2 = fallback ∧ ∃ manager', policy.1 = some manager' ∧ manager.SameTenants manager'
  refine hpost.bind fun result =>
    meets_ite (fun _ => ?_) fun hfails => meets_get.bind fun filter => ?_
  · have hmeets : Meets (Configured manager fallback) (Fallible.lift result : FilterM Json _)
        (fun _ => Configured manager fallback) (fun _ => Configured manager fallback) :=
      meets_lift (fun _ _ _ hs => hs) fun _ _ _ hs => hs
    refine hmeets.bind fun out => meets_pure fun _ hs => ?_
    exact ⟨hs, fun nextModel h => absurd h (by simp)⟩
  · split
    · rename_i nextModel hnext
      refine meets_pure fun _ hs => ⟨hs.2, fun model hmodel => ⟨by simp_all, ?_⟩⟩
      obtain ⟨chains, hchains, hresolved⟩ := Option.bind_eq_some_iff.mp hnext
      obtain rfl := Sum.inr.inj hmodel
      have hfallback : fallback = some chains := by
        rw [← hs.2.1, ← hs.1]
        exact hchains
      rw [hfallback]
      exact offers_of_resolveFallback hresolved
    · exact meets_throw fun _ hs => hs.2

/-- The call goes on with the model that was put in, under the key it started with. -/
theorem meets_retryCall (env : PreEnv) (session : Session Json) (nextModel : String) :
    Meets (Configured manager fallback) (retryCall cr env session nextModel)
      (fun session' filter => Configured manager fallback filter
        ∧ session'.apiKey = session.apiKey ∧ session'.ctx.request.model = nextModel)
      (fun _ => Configured manager fallback) :=
  (meets_preProcess cr env session.path session.body session.apiKey).bind fun _ =>
    meets_get.bind fun _ => meets_pure fun _ hs => ⟨hs.2.1, rfl, rfl⟩

/-! ## What is handed to the upstream -/

/-- Every request handed to the upstream has a model that the tenant of its key may use. -/
def TenantsEnforced (manager : TenantManager) (log : List (LogEntry Json)) : Prop :=
  ∀ apiKey attempt ctx, .called apiKey attempt ctx ∈ log → manager.Permits apiKey ctx.request.model

theorem tenantsEnforced_append {log log' : List (LogEntry Json)} :
    TenantsEnforced manager (log ++ log')
      ↔ TenantsEnforced manager log ∧ TenantsEnforced manager log' := by
  simp only [TenantsEnforced, List.mem_append, or_imp, forall_and]

theorem tenantsEnforced_called {apiKey : Option String} {attempt : ℕ} {ctx : AIContext Json} :
    TenantsEnforced manager [.called apiKey attempt ctx]
      ↔ manager.Permits apiKey ctx.request.model := by
  constructor
  · exact fun h => h apiKey attempt ctx (List.mem_singleton.mpr rfl)
  · intro h apiKey' attempt' ctx' hmem
    obtain ⟨rfl, -, rfl⟩ := LogEntry.called.inj (List.mem_singleton.mp hmem)
    exact h

theorem tenantsEnforced_hitEntry (prepared : Except (AIError Json) (Prepared Json))
    (e : AIError Json) : TenantsEnforced manager (hitEntry prepared e) := by
  unfold hitEntry
  split <;> simp [TenantsEnforced]

/-- The event hands a request to the upstream that no tenant was asked about: one without a key, or
one whose model was put in by a fallback and is not permitted. -/
def Gateway.Unchecked (g : Gateway Json) (manager : TenantManager) : GatewayEvent Json → Prop
  | .start id env path body apiKey => (id.bind g.sessions).isSome = false ∧ apiKey = none ∧
      ∃ ctx filter, preProcess cr env path body apiKey g.filter = .ok ctx filter
  | .answer id env retryEnv body status => ∃ session, g.sessions id = some session ∧
      ∃ nextModel filter,
        settleCall cr env session body status g.filter = .ok (.inr nextModel) filter
        ∧ (∃ session' after, retryCall cr retryEnv session nextModel filter = .ok session' after)
        ∧ ¬ manager.Permits session.apiKey nextModel
  | .failed _ => False

variable {cr} {g : Gateway Json}

theorem tenantsEnforced_start (h : Configured manager fallback g.filter) (id : Option ℕ)
    (env : PreEnv) (path : String) (body : List UInt8) (apiKey : Option String) :
    TenantsEnforced manager (g.start cr id env path body apiKey).log
      ↔ TenantsEnforced manager g.log ∧ ¬ (apiKey = none ∧
        ∃ ctx filter, preProcess cr env path body apiKey g.filter = .ok ctx filter) := by
  have hspec := @meets_preProcess _ cr manager fallback env path body apiKey
  unfold Gateway.start
  cases hrun : preProcess cr env path body apiKey g.filter with
  | ok ctx filter =>
    have hpermits := (hspec.of_ok h hrun).2
    have hlog : TenantsEnforced manager (g.log ++ [.called apiKey 0 ctx])
        ↔ TenantsEnforced manager g.log ∧ (apiKey = none → False) := by
      rw [tenantsEnforced_append, tenantsEnforced_called]
      refine and_congr_right fun _ => ?_
      cases apiKey with
      | none => simp [TenantManager.Permits]
      | some key => simpa using hpermits rfl
    cases id <;> simpa [Gateway.record, Gateway.wait] using hlog
  | error e filter =>
    have hlog : TenantsEnforced manager ({ g with filter := filter }.record
          (hitEntry (prepare cr g.filter env path body apiKey) e)).log
        ↔ TenantsEnforced manager g.log :=
      tenantsEnforced_append.trans (and_iff_left (tenantsEnforced_hitEntry _ e))
    simpa using hlog

theorem tenantsEnforced_retry (h : Configured manager fallback g.filter) (id : ℕ) (env : PreEnv)
    (session : Session Json) (nextModel : String) :
    TenantsEnforced manager (g.retry cr id env session nextModel).log
      ↔ TenantsEnforced manager g.log
        ∧ ¬ ((∃ session' after, retryCall cr env session nextModel g.filter = .ok session' after)
          ∧ ¬ manager.Permits session.apiKey nextModel) := by
  have hspec := @meets_retryCall _ cr manager fallback env session nextModel
  unfold Gateway.retry
  cases hrun : retryCall cr env session nextModel g.filter with
  | ok session' filter =>
    obtain ⟨-, hkey, hmodel⟩ := hspec.of_ok h hrun
    refine tenantsEnforced_append.trans (and_congr_right fun _ => ?_)
    rw [tenantsEnforced_called, hkey, hmodel]
    simp
  | error e filter =>
    refine (tenantsEnforced_append.trans
      (and_iff_left (tenantsEnforced_hitEntry _ e))).trans ?_
    simp [Gateway.finish]

theorem tenantsEnforced_answer (h : Configured manager fallback g.filter) (id : ℕ) (env : PostEnv)
    (retryEnv : PreEnv) (session : Session Json) (body : List UInt8) (status : ℕ) :
    TenantsEnforced manager (g.answer cr id env retryEnv session body status).log
      ↔ TenantsEnforced manager g.log
        ∧ ¬ ∃ nextModel filter,
          settleCall cr env session body status g.filter = .ok (.inr nextModel) filter
          ∧ (∃ session' after, retryCall cr retryEnv session nextModel filter = .ok session' after)
          ∧ ¬ manager.Permits session.apiKey nextModel := by
  have hspec := @meets_settleCall _ cr manager fallback env session body status
  have hanswered : TenantsEnforced manager
      (g.record [.answered session.attempt session.ctx body status]).log
        ↔ TenantsEnforced manager g.log :=
    tenantsEnforced_append.trans (and_iff_left (by simp [TenantsEnforced]))
  unfold Gateway.answer
  dsimp only
  cases hrun : settleCall cr env session body status
      (g.record [.answered session.attempt session.ctx body status]).filter with
  | ok outcome filter =>
    replace hrun : settleCall cr env session body status g.filter = .ok outcome filter := hrun
    rw [hrun]
    cases outcome with
    | inl out => simpa [Gateway.finish] using hanswered
    | inr nextModel =>
      refine (tenantsEnforced_retry (hspec.of_ok h hrun).1 id retryEnv session nextModel).trans ?_
      exact and_congr hanswered (by simp)
  | error e filter =>
    replace hrun : settleCall cr env session body status g.filter = .error e filter := hrun
    rw [hrun]
    simpa [Gateway.finish] using hanswered

/-- **One step hands on what is permitted, exactly if it is not an unchecked one.** -/
theorem tenantsEnforced_step (h : Configured manager fallback g.filter)
    (event : GatewayEvent Json) :
    TenantsEnforced manager (g.step cr event).log
      ↔ TenantsEnforced manager g.log ∧ ¬ g.Unchecked cr manager event := by
  cases event with
  | start id env path body apiKey =>
    rw [Gateway.step, Gateway.Unchecked]
    split
    · rename_i htaken
      simp [htaken]
    · rename_i hfree
      rw [Bool.not_eq_true] at hfree
      rw [tenantsEnforced_start h, and_iff_right hfree]
  | answer id env retryEnv body status =>
    rw [Gateway.step, Gateway.Unchecked]
    split
    · rename_i session hsession
      rw [tenantsEnforced_answer h]
      simp [hsession]
    · rename_i hnone
      simp [hnone]
  | failed id => exact (and_iff_left not_false).symm

/-! ## Histories -/

variable (manager fallback) in
/-- The configuration is kept, and a call that waits has the key of the request that started it. -/
structure Keyed (events : List (GatewayEvent Json)) (g : Gateway Json) : Prop where
  configured : Configured manager fallback g.filter
  started : ∀ id session, g.sessions id = some session →
    ∃ env path body, .start (some id) env path body session.apiKey ∈ events

section

variable {events : List (GatewayEvent Json)}

theorem Keyed.finish (h : Keyed manager fallback events g) {filter : AIGatewayFilter Json}
    (hfilter : Configured manager fallback filter) (id : ℕ) :
    Keyed manager fallback events (g.finish id filter) := by
  refine ⟨hfilter, fun id' session hsession => ?_⟩
  dsimp only [Gateway.finish] at hsession
  split at hsession
  · exact absurd hsession (by simp)
  · exact h.started id' session hsession

theorem Keyed.wait (h : Keyed manager fallback events g) {filter : AIGatewayFilter Json}
    (hfilter : Configured manager fallback filter) {id : ℕ} {session : Session Json}
    (hstarted : ∃ env path body, .start (some id) env path body session.apiKey ∈ events)
    (log : List (LogEntry Json)) :
    Keyed manager fallback events { filter, sessions := g.sessions.insert id session, log } := by
  refine ⟨hfilter, fun id' session' (hsession : g.sessions.insert id session id' = _) => ?_⟩
  rw [Table.insert_apply] at hsession
  split at hsession
  · rename_i hid
    obtain rfl := Option.some.inj hsession
    rwa [hid]
  · exact h.started id' session' hsession

theorem Keyed.retry (h : Keyed manager fallback events g) {id : ℕ} (env : PreEnv)
    {session : Session Json} (nextModel : String)
    (hstarted : ∃ env path body, .start (some id) env path body session.apiKey ∈ events) :
    Keyed manager fallback events (g.retry cr id env session nextModel) := by
  have hspec := @meets_retryCall _ cr manager fallback env session nextModel
  unfold Gateway.retry
  cases hrun : retryCall cr env session nextModel g.filter with
  | ok session' filter =>
    obtain ⟨hfilter, hkey, -⟩ := hspec.of_ok h.configured hrun
    rw [← hkey] at hstarted
    exact h.wait hfilter hstarted _
  | error e filter =>
    have hfinish := h.finish (hspec.of_error h.configured hrun) id
    exact ⟨hfinish.configured, hfinish.started⟩

theorem Keyed.step (h : Keyed manager fallback events g) {event : GatewayEvent Json}
    (hevent : event ∈ events) : Keyed manager fallback events (g.step cr event) := by
  cases event with
  | start id env path body apiKey =>
    have hspec := @meets_preProcess _ cr manager fallback env path body apiKey
    rw [Gateway.step]
    split
    · exact h
    · unfold Gateway.start
      cases hrun : preProcess cr env path body apiKey g.filter with
      | ok ctx filter =>
        have hfilter := (hspec.of_ok h.configured hrun).1
        cases id with
        | some id => exact h.wait hfilter ⟨env, path, body, hevent⟩ _
        | none => exact ⟨hfilter, h.started⟩
      | error e filter => exact ⟨hspec.of_error h.configured hrun, h.started⟩
  | answer id env retryEnv body status =>
    rw [Gateway.step]
    split
    · rename_i session hsession
      have hspec := @meets_settleCall _ cr manager fallback env session body status
      have hrecorded : Keyed manager fallback events
          (g.record [.answered session.attempt session.ctx body status]) :=
        ⟨h.configured, h.started⟩
      unfold Gateway.answer
      dsimp only
      cases hrun : settleCall cr env session body status
          (g.record [.answered session.attempt session.ctx body status]).filter with
      | ok outcome filter =>
        have hfilter := (hspec.of_ok h.configured hrun).1
        cases outcome with
        | inl out => exact hrecorded.finish hfilter id
        | inr nextModel =>
          have hgoing : Keyed manager fallback events
              { g.record [.answered session.attempt session.ctx body status] with
                filter := filter } := ⟨hfilter, h.started⟩
          exact hgoing.retry retryEnv nextModel (h.started id session hsession)
      | error e filter => exact hrecorded.finish (hspec.of_error h.configured hrun) id
    · exact h
  | failed id => exact h.finish h.configured id

variable (cr) in
theorem keyed_run (filter : AIGatewayFilter Json) (manager : TenantManager)
    {past : List (GatewayEvent Json)} (hpast : past ⊆ events) :
    Keyed manager filter.fallback events
      (runGateway cr { filter with tenantManager := some manager } past) := by
  have hfirst : Keyed manager filter.fallback events
      ({ filter := { filter with tenantManager := some manager } } : Gateway Json) :=
    ⟨⟨rfl, manager, rfl, TenantManager.SameTenants.refl⟩, fun _ _ h => absurd h (by simp)⟩
  rw [runGateway]
  exact List.foldlRecOn past _ hfirst fun g hg event hevent => hg.step (hpast hevent)

end

/-- By induction on the history; the state before each event is one of a run. -/
theorem tenantsEnforced_run (cr : AiCrates Json) (filter : AIGatewayFilter Json)
    (manager : TenantManager) (events : List (GatewayEvent Json)) :
    TenantsEnforced manager (runGateway cr { filter with tenantManager := some manager } events).log
      ↔ ∀ past event future, events = past ++ event :: future →
        ¬ (runGateway cr { filter with tenantManager := some manager } past).Unchecked cr manager
          event := by
  induction events using List.reverseRecOn with
  | nil => simp [runGateway, TenantsEnforced]
  | append_singleton events last ih =>
    have hkeyed := keyed_run cr filter manager (List.Subset.refl events)
    have hrun : runGateway cr { filter with tenantManager := some manager } (events ++ [last])
        = (runGateway cr { filter with tenantManager := some manager } events).step cr last :=
      List.foldl_concat ..
    rw [hrun, tenantsEnforced_step hkeyed.configured, ih]
    exact forall_moments_concat.symm

/-- **Tenants are enforced exactly if no event is an unchecked one; and so they are if every request
presents a key, and for the key of a call all models are permitted that the chains offer for the
statuses it is answered with.** -/
theorem tenantEnforcement_iff (cr : AiCrates Json) (filter : AIGatewayFilter Json)
    (manager : TenantManager) (events : List (GatewayEvent Json)) :
    (TenantsEnforced manager
        (runGateway cr { filter with tenantManager := some manager } events).log
      ↔ ∀ past event future, events = past ++ event :: future →
        ¬ (runGateway cr { filter with tenantManager := some manager } past).Unchecked cr manager
          event)
    ∧ ((∀ id env path body apiKey, .start id env path body apiKey ∈ events → apiKey.isSome = true) →
        (∀ id env path body apiKey, .start (some id) env path body apiKey ∈ events →
          ∀ env retryEnv body status, .answer id env retryEnv body status ∈ events →
            shouldAttemptFallback status = true →
              ∀ model, Offers filter.fallback status model → manager.Permits apiKey model) →
        TenantsEnforced manager
          (runGateway cr { filter with tenantManager := some manager } events).log) := by
  have hexact := tenantsEnforced_run cr filter manager events
  refine ⟨hexact, fun hkeys hfallbacks => hexact.mpr fun past event future hsplit hunchecked => ?_⟩
  have hevent : event ∈ events := by simp [hsplit]
  have hpast : past ⊆ events := by simp [hsplit]
  have hkeyed := keyed_run cr filter manager hpast
  cases event with
  | start id env path body apiKey =>
    obtain ⟨-, rfl, -⟩ := hunchecked
    exact absurd (hkeys _ _ _ _ _ hevent) (by simp)
  | answer id env retryEnv body status =>
    obtain ⟨session, hsession, nextModel, filter', hsettle, -, hforbidden⟩ := hunchecked
    obtain ⟨startEnv, path, startBody, hstart⟩ := hkeyed.started id session hsession
    have hspec := @meets_settleCall _ cr manager filter.fallback env session body status
    obtain ⟨hstatus, hoffers⟩ := (hspec.of_ok hkeyed.configured hsettle).2 nextModel rfl
    exact hforbidden (hfallbacks _ _ _ _ _ hstart _ _ _ _ hevent hstatus nextModel hoffers)
  | failed id => exact hunchecked

/-! ## What is not enforced -/

def smallTenant : Tenant := { tenantId := "team", apiKeys := ["key"], allowedModels := ["small"] }

def largeFallback : AIGatewayFilter Empty where
  adapters := Table.empty.insert "openai" smallModelAdapter
  fallback := some smallThenLarge
  tenantManager := some (TenantManager.new [smallTenant])

/-- **A request without a key is handed to the upstream, and so is a fallback model that the tenant
may not use.** -/
theorem tenantEnforcement_bypassed : ¬ TenantsEnforced (TenantManager.new [smallTenant])
        (runGateway plainCrates largeFallback
          [.start (some 0) {} "/v1/chat/completions" [] none]).log
      ∧ ¬ TenantsEnforced (TenantManager.new [smallTenant]) (runGateway plainCrates largeFallback
          [.start (some 0) {} "/v1/chat/completions" [] (some "key"),
            .answer 0 {} {} [] 500]).log := by
  constructor
  · intro h
    obtain ⟨key, tenant, hkey, -⟩ := h none 0 (smallContext "small" none) (by decide +kernel)
    exact absurd hkey (by simp)
  · intro h
    obtain ⟨key, tenant, hkey, htenant, haccess⟩ :=
      h (some "key") 1 (smallContext "large" none) (by decide +kernel)
    obtain rfl := Option.some.inj hkey
    have hsmall : (TenantManager.new [smallTenant]).resolve "key" = some smallTenant := by decide
    obtain rfl := Option.some.inj (hsmall.symm.trans htenant)
    exact absurd haccess (by decide)

end NantianGateway.Ai
